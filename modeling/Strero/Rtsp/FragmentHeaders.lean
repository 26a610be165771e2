import Strero.Rtsp.PayloadRoundTrip

/-!
# The headers of fragments

`send_rtp_packet` hands on a NAL unit by its size with the start code and the header, and the
loop of a fragmenting function works on the size without both. The first fragment has to bear
the start bit and the last one the end bit, and no packet may bear both.
-/

namespace Rtsp

open Rtp Wire

/-! ### What is offered to the network -/

/-- The RTP packet of a call. The four bytes in front of a packet on the RTSP connection may have
a call of their own. -/
def Call.packet : Call → Option (List UInt8)
  | .sendto _ _ packet => some packet
  | .tlsWrite bytes => some (bytes.drop 4)
  | .send _ bytes => if bytes.length = 4 then none else some bytes

/-- The payloads of the packets that were offered. -/
def offeredPayloads (calls : List Call) : List (List UInt8) :=
  (calls.filterMap Call.packet).map (·.drop rtpHeaderSize)

/-- From `s` to `s'`, the payloads have been offered, and nothing else but the number of the next
packet has changed for the client. -/
def Sender.Offers (s s' : Sender) (payloads : List (List UInt8)) : Prop :=
  (∃ rtpSeq, s'.client = { s.client with rtpSeq := rtpSeq }) ∧
    ∃ calls, s'.calls = s.calls ++ calls ∧ offeredPayloads calls = payloads

theorem Sender.Offers.trans {s₁ s₂ s₃ : Sender} {payloads₁ payloads₂ : List (List UInt8)}
    (h₁ : s₁.Offers s₂ payloads₁) (h₂ : s₂.Offers s₃ payloads₂) :
    s₁.Offers s₃ (payloads₁ ++ payloads₂) := by
  obtain ⟨⟨_, hclient₁⟩, calls₁, hcalls₁, rfl⟩ := h₁
  obtain ⟨⟨rtpSeq, hclient₂⟩, calls₂, hcalls₂, rfl⟩ := h₂
  refine ⟨⟨rtpSeq, by rw [hclient₂, hclient₁]⟩, calls₁ ++ calls₂, ?_, ?_⟩
  · rw [hcalls₂, hcalls₁, List.append_assoc]
  · rw [offeredPayloads, List.filterMap_append, List.map_append]
    rfl

theorem Sender.Offers.of_nextSeq {s s' : Sender} {payloads : List (List UInt8)}
    (h : s.nextSeq.Offers s' payloads) : s.Offers s' payloads := by
  have hcount : s.Offers s.nextSeq [] := ⟨⟨_, rfl⟩, [], by simp [Sender.nextSeq], rfl⟩
  exact hcount.trans h

/-- What has been offered is determined. -/
theorem Sender.Offers.unique {s s' : Sender} {payloads payloads' : List (List UInt8)}
    (h : s.Offers s' payloads) (h' : s.Offers s' payloads') : payloads = payloads' := by
  obtain ⟨-, calls, hcalls, rfl⟩ := h
  obtain ⟨-, calls', hcalls', rfl⟩ := h'
  rw [hcalls] at hcalls'
  rw [List.append_cancel_left hcalls']

/-- A packet of the functions that fragment is offered, unless the write of the bytes in front of
it has failed. -/
structure OffersPacket (net : Network)
    (sendPacket : Sender → Network → List UInt8 → Sender × Bool) : Prop where
  offers : ∀ (s : Sender) {header : List UInt8} (payload : List UInt8),
    header.length = rtpHeaderSize → ∃ k, s.Offers (sendPacket s net (header ++ payload)).1
      ([payload].take k) ∧ ((sendPacket s net (header ++ payload)).2 = true → k = 1)
  succeeds : net.Succeeds → ∀ s packet, (sendPacket s net packet).2 = true

/-- A call with a packet in it. -/
theorem Sender.call_offers (s : Sender) (net : Network) {c : Call} {header payload : List UInt8}
    (hheader : header.length = rtpHeaderSize) (hpacket : c.packet = some (header ++ payload)) :
    s.Offers (s.call net c).1 [payload] := by
  refine ⟨⟨s.client.rtpSeq, rfl⟩, [c], rfl, ?_⟩
  rw [offeredPayloads, List.filterMap_cons_some hpacket, List.filterMap_nil, List.map_singleton,
    ← hheader, List.drop_left]

theorem sendDatagram_offers (s : Sender) (net : Network) {header : List UInt8}
    (payload : List UInt8) (hheader : header.length = rtpHeaderSize) :
    s.Offers (s.sendDatagram net (header ++ payload)).1 [payload] :=
  s.call_offers net hheader rfl

theorem sendInterleaved_offers (s : Sender) (net : Network) {header : List UInt8}
    (payload : List UInt8) (hheader : header.length = rtpHeaderSize) :
    s.Offers (s.sendInterleaved net (header ++ payload)).1 [payload] :=
  s.call_offers net hheader rfl

/-- The bytes in front of a packet are no packet. -/
theorem header_offers (s : Sender) (net : Network) (size : ℕ) :
    s.Offers (s.call net (.send s.client.socketFd (interleavedHeader s.client size))).1 [] :=
  ⟨⟨s.client.rtpSeq, rfl⟩, [_], rfl, rfl⟩

theorem sendH264_offers (net : Network) : OffersPacket net Sender.sendH264 where
  offers := by
    intro s header payload hheader
    refine ⟨1, ?_, fun _ => rfl⟩
    unfold Sender.sendH264
    cases s.client.transportMode with
    | udp => exact sendDatagram_offers s net payload hheader
    | tcp => exact sendInterleaved_offers s net payload hheader
  succeeds := by
    intro hnet s packet
    unfold Sender.sendH264
    cases s.client.transportMode with
    | udp => simp [Sender.sendDatagram, Sender.call, hnet _ _]
    | tcp => simp [Sender.sendInterleaved, Sender.call, hnet _ _, Call.bytes]

theorem sendH265_offers (net : Network) : OffersPacket net Sender.sendH265 where
  offers := by
    intro s header payload hheader
    unfold Sender.sendH265
    cases s.client.transportMode with
    | udp => exact ⟨1, sendDatagram_offers s net payload hheader, fun _ => rfl⟩
    | tcp =>
      dsimp only
      unfold Sender.sendInterleavedTwice
      have hfirst := header_offers s net (header ++ payload).length
      have hlength : ¬(header ++ payload).length = 4 := by
        rw [List.length_append, hheader, rtpHeaderSize]
        omega
      dsimp only
      split
      · exact ⟨0, hfirst, fun h => by cases h⟩
      · refine ⟨1, hfirst.trans (Sender.call_offers _ net hheader ?_), fun _ => rfl⟩
        exact if_neg hlength
  succeeds := by
    intro hnet s packet
    unfold Sender.sendH265
    cases s.client.transportMode with
    | udp => simp [Sender.sendDatagram, Sender.call, hnet _ _]
    | tcp =>
      simp [Sender.sendInterleavedTwice, Sender.call, hnet _ _, Call.bytes, interleavedHeader]

/-! ### The loop -/

/-- The loop offers the pieces of the data one after the other, and all of them if no call
fails. -/
theorem fragmentLoop_offers {net : Network}
    {sendPacket : Sender → Network → List UInt8 → Sender × Bool}
    (hsend : OffersPacket net sendPacket) (codec : Codec) (maxPayloadSize : ℕ)
    [NeZero maxPayloadSize] (fuHeader : Bool → Bool → List UInt8) (timestamp : UInt32)
    (marker : Bool) (s : Sender) {data : List UInt8} (hdata : data ≠ []) (fragmentsSent : ℕ) :
    ∃ k, s.Offers
        (fragmentLoop net sendPacket codec maxPayloadSize fuHeader timestamp marker s data
          fragmentsSent).1
        (((pieces maxPayloadSize (decide (fragmentsSent = 0)) data).map
          (fuPayload fuHeader)).take k) ∧
      (net.Succeeds → (pieces maxPayloadSize (decide (fragmentsSent = 0)) data).length ≤ k) := by
  induction hlength : data.length using Nat.strong_induction_on
    generalizing s data fragmentsSent with
  | _ n ih =>
    have hne : ¬data.length = 0 := fun h => hdata (List.length_eq_zero_iff.mp h)
    rw [fragmentLoop, if_neg hne, pieces]
    by_cases hfits : data.length ≤ maxPayloadSize
    · -- the last fragment
      simp only [hfits, decide_true, Bool.true_and, Nat.not_lt.mpr hfits, if_false, if_true,
        List.take_length, List.drop_length]
      have hheader := rtpHeader_length s.client codec.payloadType timestamp marker
      obtain ⟨k, hoffers, hk⟩ := hsend.offers s.nextSeq
        (fuHeader (decide (fragmentsSent = 0)) true ++ data) hheader
      refine ⟨k, ?_, fun hnet => (hk (hsend.succeeds hnet _ _)).ge⟩
      split
      · rw [fragmentLoop, if_pos List.length_nil]
        exact hoffers.of_nextSeq
      · exact hoffers.of_nextSeq
    · -- a fragment that others follow
      have hlong : data.length > maxPayloadSize := Nat.lt_of_not_le hfits
      simp only [hfits, decide_false, Bool.false_and, hlong, if_true, if_false]
      have hheader := rtpHeader_length s.client codec.payloadType timestamp false
      obtain ⟨k, hoffers, hk⟩ := hsend.offers s.nextSeq
        (fuHeader (decide (fragmentsSent = 0)) false ++ data.take maxPayloadSize) hheader
      cases hsent : (sendPacket s.nextSeq net
          (rtpHeader s.client codec.payloadType timestamp false ++
            (fuHeader (decide (fragmentsSent = 0)) false ++ data.take maxPayloadSize))).2 with
      | true =>
        have hmax : 0 < maxPayloadSize := Nat.pos_of_neZero maxPayloadSize
        have hdrop : (data.drop maxPayloadSize).length < n := by
          rw [List.length_drop]
          omega
        have hrest : data.drop maxPayloadSize ≠ [] :=
          List.ne_nil_of_length_pos (by rw [List.length_drop]; omega)
        obtain ⟨k', hoffers', hall⟩ := ih _ hdrop (sendPacket s.nextSeq net _).1 hrest
          (fragmentsSent + 1) rfl
        refine ⟨k' + 1, ?_, fun hnet => ?_⟩
        · rw [hk hsent] at hoffers
          exact hoffers.of_nextSeq.trans hoffers'
        · have := hall hnet
          simpa using this
      | false =>
        refine ⟨min k 1, ?_, fun hnet => ?_⟩
        · have htake : (List.map (fuPayload fuHeader)
              (⟨decide (fragmentsSent = 0), false, data.take maxPayloadSize⟩ ::
                pieces maxPayloadSize false (data.drop maxPayloadSize))).take (min k 1) =
              [fuHeader (decide (fragmentsSent = 0)) false ++ data.take maxPayloadSize].take k := by
            cases k with
            | zero => rfl
            | succ k =>
              have hone : min (k + 1) 1 = 1 := by omega
              rw [hone]
              simp [fuPayload]
          rw [htake]
          exact hoffers.of_nextSeq
        · rw [hsend.succeeds hnet] at hsent
          cases hsent

/-! ### Start and end bits -/

/-- Where the FU header stands in a payload. -/
def Codec.fuHeaderOffset : Codec → ℕ
  | .h264 => 1
  | .h265 => 2

/-- The start bit and the end bit of a fragment. -/
def Codec.fuFlags (codec : Codec) (payload : List UInt8) : Option (Bool × Bool) :=
  payload[codec.fuHeaderOffset]?.map fun b => (decide (b &&& 0x80 ≠ 0), decide (b &&& 0x40 ≠ 0))

/-- There are at least two fragments; only the first bears the start bit, and only the last one
the end bit. -/
def Codec.LegalFragments (codec : Codec) (payloads : List (List UInt8)) : Prop :=
  2 ≤ payloads.length ∧ ∀ i payload, payloads[i]? = some payload →
    codec.fuFlags payload = some (decide (i = 0), decide (i + 1 = payloads.length))

/-- No legal fragment bears both bits. -/
theorem Codec.LegalFragments.not_both {codec : Codec} {payloads : List (List UInt8)}
    (h : codec.LegalFragments payloads) : ∀ payload ∈ payloads,
      codec.fuFlags payload ≠ some (true, true) := by
  intro payload hmem hboth
  obtain ⟨i, hi⟩ := List.mem_iff_getElem?.mp hmem
  have hlength := h.1
  have hflags := h.2 i payload hi
  rw [hboth] at hflags
  simp only [Option.some.injEq, Prod.mk.injEq, true_eq_decide_iff] at hflags
  omega

private theorem fuBits : ∀ b : UInt8, ∀ start stop : Bool,
    let h264 : UInt8 := (if start then 0x80 else 0) ||| (if stop then 0x40 else 0) ||| (b &&& 0x1F)
    let h265 : UInt8 :=
      ((b >>> 1) &&& 0x3F) ||| (if start then 0x80 else 0) ||| (if stop then 0x40 else 0)
    (decide (h264 &&& 0x80 ≠ 0) = start ∧ decide (h264 &&& 0x40 ≠ 0) = stop) ∧
      decide (h265 &&& 0x80 ≠ 0) = start ∧ decide (h265 &&& 0x40 ≠ 0) = stop :=
  forall_byte (by decide +kernel)

theorem fuFlags_h264 (nalHeader : UInt8) (p : Piece) :
    Codec.h264.fuFlags (fuPayload (fuHeaderH264 nalHeader) p) = some (p.start, p.stop) := by
  obtain ⟨⟨hstart, hstop⟩, -⟩ := fuBits nalHeader p.start p.stop
  simp only [Codec.fuFlags, Codec.fuHeaderOffset, fuPayload, fuHeaderH264, List.cons_append,
    List.getElem?_cons_succ, List.getElem?_cons_zero, Option.map_some, hstart, hstop]

theorem fuFlags_h265 (b₀ b₁ : UInt8) (p : Piece) :
    Codec.h265.fuFlags (fuPayload (fuHeaderH265 b₀ b₁) p) = some (p.start, p.stop) := by
  obtain ⟨-, hstart, hstop⟩ := fuBits b₀ p.start p.stop
  simp only [Codec.fuFlags, Codec.fuHeaderOffset, fuPayload, fuHeaderH265_eq, List.cons_append,
    List.getElem?_cons_succ, List.getElem?_cons_zero, Option.map_some, hstart, hstop]

/-- The fragments of some data are legal exactly if the data do not fit into one. -/
theorem legalFragments_pieces_iff {codec : Codec} {limit : ℕ} [NeZero limit]
    {fuHeader : Bool → Bool → List UInt8}
    (hflags : ∀ p, codec.fuFlags (fuPayload fuHeader p) = some (p.start, p.stop))
    (data : List UInt8) :
    codec.LegalFragments ((pieces limit true data).map (fuPayload fuHeader)) ↔
      limit < data.length := by
  rw [← two_le_length_pieces_iff true, Codec.LegalFragments, List.length_map]
  refine ⟨fun h => h.1, fun h => ⟨h, fun i payload hi => ?_⟩⟩
  rw [List.getElem?_map] at hi
  obtain ⟨p, hp, rfl⟩ := Option.map_eq_some_iff.mp hi
  obtain ⟨hstart, hstop⟩ := pieces_getElem? hp
  rw [hflags, hstart, hstop, Bool.true_and]

/-! ### NAL units that are fragmented -/

/-- `send_rtp_packet` hands the data on, and the function of the codec fragments them: they are
not too large for it, and longer than a packet without their start code. -/
def Codec.Fragments (codec : Codec) (data : List UInt8) : Prop :=
  maxRtpPacketSize - rtpHeaderSize - 4 < data.length ∧
    match codec with
    | .h264 => data.length ≤ 300 * 1024 ∧ maxPayloadH264 < (skipStartCode data).length
    | .h265 => maxPayloadH265 < (skipStartCode data).length

/-- A NAL unit of this size, without its start code, does not fit into one fragment if it is
fragmented. -/
def Codec.NeedsTwo (codec : Codec) (size : ℕ) : Prop :=
  match codec with
  | .h264 => size ≠ 1187
  | .h265 => size ≠ 1186 ∧ size ≠ 1187

/-- The data are sent in legal fragments to a client that plays: those offered are some of the
first, and all of them if no call fails. -/
def Sender.SendsLegalFragments (s : Sender) (data : List UInt8) (timestamp : UInt32)
    (marker : Bool) : Prop :=
  ∃ payloads, s.client.codec.LegalFragments payloads ∧ ∀ net : Network, ∃ k,
    s.Offers (sendRtpPacket net s data timestamp marker).1 (payloads.take k) ∧
      (net.Succeeds → payloads.length ≤ k)

/-- The header and the data of a unit of H.264 that is fragmented. -/
theorem unit_h264 {data : List UInt8} (hlong : maxPayloadH264 < (skipStartCode data).length) :
    ∃ nalHeader nalData, skipStartCode data = nalHeader :: nalData ∧ nalData ≠ [] := by
  match skipStartCode data, hlong with
  | nalHeader :: b :: nalData, _ => exact ⟨nalHeader, b :: nalData, rfl, List.cons_ne_nil _ _⟩

/-- The header and the data of a unit of H.265 that is fragmented. -/
theorem unit_h265 {data : List UInt8} (hlong : maxPayloadH265 < (skipStartCode data).length) :
    ∃ b₀ b₁ nalData, skipStartCode data = b₀ :: b₁ :: nalData ∧ nalData ≠ [] := by
  match skipStartCode data, hlong with
  | b₀ :: b₁ :: b₂ :: nalData, _ => exact ⟨b₀, b₁, b₂ :: nalData, rfl, List.cons_ne_nil _ _⟩

/-- The fragments are offered one after the other. -/
theorem sendRtpPacket_offers (net : Network) (s : Sender) {data : List UInt8} (timestamp : UInt32)
    (marker : Bool) (hplaying : s.client.state = .playing)
    (hfragments : s.client.codec.Fragments data) :
    ∃ k, s.Offers (sendRtpPacket net s data timestamp marker).1
        ((s.client.codec.sentPayloads data).take k) ∧
      (net.Succeeds → (s.client.codec.sentPayloads data).length ≤ k) := by
  obtain ⟨hhanded, hfits⟩ := hfragments
  rw [sendRtpPacket, if_neg (not_not.mpr hplaying), if_pos hhanded]
  cases hcodec : s.client.codec with
  | h264 =>
    simp only [hcodec] at hfits
    obtain ⟨hsize, hlong⟩ := hfits
    obtain ⟨nalHeader, nalData, hunit, hne⟩ := unit_h264 hlong
    have hlong' : ¬(nalHeader :: nalData).length ≤ maxPayloadH264 := by
      rw [← hunit]
      exact Nat.not_le.mpr hlong
    simp only [Codec.sentPayloads, if_neg (Nat.not_le.mpr hhanded), if_neg (Nat.not_lt.mpr hsize),
      sendH264FragmentedRtp, hunit, h264Payloads_cons hlong', if_neg hlong']
    obtain ⟨k, hoffers, hall⟩ := fragmentLoop_offers (sendH264_offers net) .h264 maxPayloadH264
      (fuHeaderH264 nalHeader) timestamp marker s hne 0
    exact ⟨k, hoffers, fun hnet => by simpa using hall hnet⟩
  | h265 =>
    simp only [hcodec] at hfits
    obtain ⟨b₀, b₁, nalData, hunit, hne⟩ := unit_h265 hfits
    have hlong' : ¬(b₀ :: b₁ :: nalData).length ≤ maxPayloadH265 := by
      rw [← hunit]
      exact Nat.not_le.mpr hfits
    simp only [Codec.sentPayloads, sendH265FragmentedRtp, hunit, h265Payloads_cons hlong',
      if_neg hlong']
    obtain ⟨k, hoffers, hall⟩ := fragmentLoop_offers (sendH265_offers net) .h265 maxPayloadH265
      (fuHeaderH265 b₀ b₁) timestamp marker s hne 0
    exact ⟨k, hoffers, fun hnet => by simpa using hall hnet⟩

/-- The fragments of a NAL unit are legal exactly if its data do not fit into one of them. -/
theorem legalFragments_sentPayloads_iff {codec : Codec} {data : List UInt8}
    (hfragments : codec.Fragments data) :
    codec.LegalFragments (codec.sentPayloads data) ↔
      codec.NeedsTwo (skipStartCode data).length := by
  obtain ⟨hhanded, hfits⟩ := hfragments
  cases codec with
  | h264 =>
    obtain ⟨hsize, hlong⟩ := hfits
    obtain ⟨nalHeader, nalData, hunit, -⟩ := unit_h264 hlong
    have hlong' : ¬(nalHeader :: nalData).length ≤ maxPayloadH264 := by
      rw [← hunit]
      exact Nat.not_le.mpr hlong
    simp only [Codec.sentPayloads, if_neg (Nat.not_le.mpr hhanded), if_neg (Nat.not_lt.mpr hsize),
      hunit, h264Payloads_cons hlong']
    rw [legalFragments_pieces_iff (fuFlags_h264 nalHeader)]
    simp only [Codec.NeedsTwo, List.length_cons, maxPayloadH264, maxRtpPacketSize,
      rtpHeaderSize] at hlong' ⊢
    omega
  | h265 =>
    obtain ⟨b₀, b₁, nalData, hunit, -⟩ := unit_h265 hfits
    have hlong' : ¬(b₀ :: b₁ :: nalData).length ≤ maxPayloadH265 := by
      rw [← hunit]
      exact Nat.not_le.mpr hfits
    simp only [Codec.sentPayloads, hunit, h265Payloads_cons hlong']
    rw [legalFragments_pieces_iff (fuFlags_h265 b₀ b₁)]
    simp only [Codec.NeedsTwo, List.length_cons, maxPayloadH265, maxRtpPacketSize,
      rtpHeaderSize] at hlong' ⊢
    omega

/-- Legal fragments are those of the packetization. -/
theorem Sender.SendsLegalFragments.sentPayloads {s : Sender} {data : List UInt8}
    {timestamp : UInt32} {marker : Bool} (h : s.SendsLegalFragments data timestamp marker)
    (hplaying : s.client.state = .playing) (hfragments : s.client.codec.Fragments data) :
    s.client.codec.LegalFragments (s.client.codec.sentPayloads data) := by
  obtain ⟨payloads, hlegal, hoffers⟩ := h
  have hnet : Network.Succeeds goodNetwork := goodNetwork_succeeds
  obtain ⟨k, hsome, hall⟩ := hoffers goodNetwork
  obtain ⟨k', hsent, hall'⟩ :=
    sendRtpPacket_offers goodNetwork s timestamp marker hplaying hfragments
  rw [List.take_of_length_le (hall hnet)] at hsome
  rw [List.take_of_length_le (hall' hnet)] at hsent
  rwa [hsome.unique hsent] at hlegal

/-- A NAL unit that is fragmented is sent in legal fragments exactly if its size is none of those
that the header bytes bring above the limit. -/
theorem sendsLegalFragments_iff (s : Sender) (data : List UInt8) (timestamp : UInt32)
    (marker : Bool) (hplaying : s.client.state = .playing)
    (hfragments : s.client.codec.Fragments data) :
    s.SendsLegalFragments data timestamp marker ↔
      s.client.codec.NeedsTwo (skipStartCode data).length := by
  rw [← legalFragments_sentPayloads_iff hfragments]
  constructor
  · exact fun h => h.sentPayloads hplaying hfragments
  · intro hlegal
    exact ⟨_, hlegal, fun net =>
      sendRtpPacket_offers net s timestamp marker hplaying hfragments⟩

/-- A slice is fragmented if it does not fit into a packet. -/
theorem idrSlice_fragments {n : ℕ} (hlong : maxPayloadH264 ≤ n) (hsize : n < 300 * 1024) :
    Codec.h264.Fragments (idrSlice n) := by
  have hunit : skipStartCode (idrSlice n) = idrSlice n := (idrSlice_isNalUnit hsize).startCode
  have hlength : (idrSlice n).length = n + 1 := by
    rw [idrSlice, List.length_cons, List.length_replicate]
  refine ⟨?_, ?_⟩
  · simp only [maxPayloadH264, maxRtpPacketSize, rtpHeaderSize, hlength] at hlong ⊢
    omega
  · rw [hunit, hlength]
    exact ⟨hsize, Nat.lt_succ_of_le hlong⟩

theorem sendsLegalFragments_idrSlice :
    (udpSender .h264).SendsLegalFragments (idrSlice 1187) 0 true ↔
      Codec.h264.NeedsTwo (skipStartCode (idrSlice 1187)).length :=
  sendsLegalFragments_iff (udpSender .h264) (idrSlice 1187) 0 true rfl
    (idrSlice_fragments (by decide) (by decide))

/-- The slice of 1187 bytes is sent in a single fragment with both bits. -/
theorem not_sendsLegalFragments_idrSlice :
    ¬(udpSender .h264).SendsLegalFragments (idrSlice 1186) 0 true := by
  have hfragments : Codec.h264.Fragments (idrSlice 1186) :=
    idrSlice_fragments (by decide) (by decide)
  intro h
  have hneeds := (legalFragments_sentPayloads_iff hfragments).mp (h.sentPayloads rfl hfragments)
  have hsize : (1186 : ℕ) < 300 * 1024 := by decide
  rw [(idrSlice_isNalUnit hsize).startCode] at hneeds
  have hlength : (idrSlice 1186).length = 1187 := by
    rw [idrSlice, List.length_cons, List.length_replicate]
  exact hneeds hlength

end Rtsp
