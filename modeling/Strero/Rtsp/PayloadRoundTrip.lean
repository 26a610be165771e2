import Strero.Rtsp.Packetization

/-!
# NAL units survive packetization

The fragment headers keep the bits of the NAL header, so a receiver of the
payload format gets back the NAL unit that was sent, unless the type of the unit
is one that the payload format has taken for its own packets.
-/

namespace Rtsp

open Wire Rtp

/-- The payload format of a codec. -/
def Codec.carried : Codec → List UInt8 → Carried
  | .h264 => h264Carried
  | .h265 => h265Carried

/-! ### H.264 -/

private theorem fuIndicator_type : ∀ nalHeader : UInt8,
    ((nalHeader &&& 0x60) ||| 28) &&& 0x1F = 28 :=
  forall_byte (by decide +kernel)

private theorem fuHeaderH264_bits : ∀ nalHeader : UInt8, ∀ start stop : Bool,
    let fuHeader : UInt8 :=
      (if start then 0x80 else 0) ||| (if stop then 0x40 else 0) ||| (nalHeader &&& 0x1F)
    (decide (fuHeader &&& 0x80 ≠ 0) = start ∧ decide (fuHeader &&& 0x40 ≠ 0) = stop) ∧
      (nalHeader &&& 0x80 = 0 →
        (((nalHeader &&& 0x60) ||| 28) &&& 0xE0) ||| (fuHeader &&& 0x1F) = nalHeader) :=
  forall_byte (by decide +kernel)

/-- A fragment of H.264 carries its place, the NAL header and its data. -/
theorem h264Carried_fuPayload {nalHeader : UInt8} (hforbidden : nalHeader &&& 0x80 = 0)
    (p : Piece) :
    h264Carried (fuPayload (fuHeaderH264 nalHeader) p) =
      .fragment p.start p.stop [nalHeader] p.data := by
  obtain ⟨⟨hstart, hstop⟩, hheader⟩ := fuHeaderH264_bits nalHeader p.start p.stop
  simp only [fuPayload, fuHeaderH264, List.cons_append, List.nil_append, h264Carried,
    fuIndicator_type, hheader hforbidden, hstart, hstop]
  rfl

/-- The types of NAL units that H.264 sends as they are. -/
def SingleUnitH264 (nal : List UInt8) : Prop :=
  ∀ b ∈ nal.head?, 1 ≤ b &&& 0x1F ∧ b &&& 0x1F ≤ 23

/-- A receiver makes the NAL unit of its payloads. -/
theorem depacketize_h264Payloads {nal : List UInt8} (hne : nal ≠ [])
    (hforbidden : ∀ b ∈ nal.head?, b &&& 0x80 = 0) (htype : SingleUnitH264 nal) :
    depacketize h264Carried (h264Payloads nal) = [nal] := by
  obtain ⟨nalHeader, data, rfl⟩ := List.exists_cons_of_ne_nil hne
  by_cases hfits : (nalHeader :: data).length ≤ maxPayloadH264
  · rw [h264Payloads_of_le hfits]
    exact depacketize_unit (by simp only [h264Carried, if_pos (htype nalHeader rfl)])
  · rw [h264Payloads_cons hfits]
    exact depacketize_pieces (h264Carried_fuPayload (hforbidden nalHeader rfl)) data

/-! ### H.265 -/

private theorem payloadHeader_toNat : ∀ b₀ : UInt8,
    (98 ||| (b₀ &&& 1)).toNat = 98 + b₀.toNat % 2 ∧
      ((b₀ >>> 1) &&& 0x3F).toNat = b₀.toNat / 2 % 64 :=
  forall_byte (by decide +kernel)

/-- The payload header: the type of fragments, and the low nine bits of the NAL
header. -/
private theorem payloadHdr_toNat (x : UInt32) :
    (((49 : UInt32) <<< 9) ||| (((x >>> 3) &&& 0x3F) <<< 3) ||| (x &&& 0x07)).toNat =
      49 * 512 + x.toNat % 512 := by
  have hlayer : (((x >>> 3) &&& 0x3F) <<< 3).toNat = (x.toNat / 8 % 64) <<< 3 := by
    have hand : ((x >>> 3) &&& 0x3F).toNat = x.toNat / 8 % 64 := by
      rw [UInt32.toNat_and, UInt32.toNat_shiftRight]
      change x.toNat >>> 3 &&& 2 ^ 6 - 1 = _
      rw [Nat.and_two_pow_sub_one_eq_mod, Nat.shiftRight_eq_div_pow]
    rw [UInt32.toNat_shiftLeft, hand]
    change (x.toNat / 8 % 64) <<< 3 % 2 ^ 32 = _
    rw [Nat.mod_eq_of_lt]
    rw [Nat.shiftLeft_eq]
    omega
  have htemporal : (x &&& 0x07).toNat = x.toNat % 8 := by
    rw [UInt32.toNat_and]
    exact Nat.and_two_pow_sub_one_eq_mod _ 3
  have hlow : (x.toNat / 8 % 64) <<< 3 ||| x.toNat % 8 = x.toNat / 8 % 64 * 2 ^ 3 + x.toNat % 8 :=
    shiftLeft_or _ (by omega)
  have hall : 49 <<< 9 ||| (x.toNat / 8 % 64 * 2 ^ 3 + x.toNat % 8) =
      49 * 2 ^ 9 + (x.toNat / 8 % 64 * 2 ^ 3 + x.toNat % 8) := shiftLeft_or _ (by omega)
  rw [UInt32.toNat_or, UInt32.toNat_or, hlayer, htemporal, Nat.or_assoc, hlow]
  change 49 <<< 9 ||| _ = _
  rw [hall]
  omega

/-- The headers of a fragment, byte by byte: the payload header keeps the layer
and the temporal id, and the FU header has the type. -/
theorem fuHeaderH265_eq (b₀ b₁ : UInt8) (start stop : Bool) :
    fuHeaderH265 b₀ b₁ start stop =
      [98 ||| (b₀ &&& 1), b₁, ((b₀ >>> 1) &&& 0x3F) |||
        (if start then 0x80 else 0) ||| (if stop then 0x40 else 0)] := by
  obtain ⟨hhigh, htype⟩ := payloadHeader_toNat b₀
  have h₁ := b₁.toNat_lt
  have h₀ := b₀.toNat_lt
  have hx := getBe16_toNat b₀ b₁
  have hhdr := payloadHdr_toNat (getBe16 b₀ b₁)
  have hnal : ((getBe16 b₀ b₁ >>> 9) &&& 0x3F).toUInt8 = (b₀ >>> 1) &&& 0x3F := by
    apply UInt8.toNat_inj.mp
    rw [UInt32.toNat_toUInt8, UInt32.toNat_and, UInt32.toNat_shiftRight, htype]
    have hmask := Nat.and_two_pow_sub_one_eq_mod (getBe16 b₀ b₁ >>> 9).toNat 6
    rw [UInt32.toNat_shiftRight] at hmask
    simp only [UInt32.reduceToNat, Nat.shiftRight_eq_div_pow, Nat.reduceMod, Nat.reducePow,
      Nat.reduceSub] at hmask ⊢
    omega
  simp only [fuHeaderH265, putBe16, hnal, List.cons_append, List.nil_append]
  congr 1
  · apply UInt8.toNat_inj.mp
    rw [lowByte_toNat, UInt32.toNat_shiftRight, hhdr, hhigh]
    simp only [UInt32.reduceToNat, Nat.shiftRight_eq_div_pow, Nat.reduceMod, Nat.reducePow]
    omega
  · congr 1
    apply UInt8.toNat_inj.mp
    rw [lowByte_toNat, hhdr]
    omega

private theorem payloadHeaderH265_bits : ∀ b₀ : UInt8, ∀ start stop : Bool,
    let fuHeader : UInt8 :=
      ((b₀ >>> 1) &&& 0x3F) ||| (if start then 0x80 else 0) ||| (if stop then 0x40 else 0)
    let unitType : UInt8 := (fuHeader &&& 0x3F) <<< (1 : UInt8)
    (((98 ||| (b₀ &&& 1)) >>> 1) &&& 0x3F = 49 ∧
      decide (fuHeader &&& 0x80 ≠ 0) = start ∧ decide (fuHeader &&& 0x40 ≠ 0) = stop) ∧
      (b₀ &&& 0x80 = 0 → ((98 ||| (b₀ &&& 1)) &&& 0x81) ||| unitType = b₀) :=
  forall_byte (by decide +kernel)

/-- A fragment of H.265 carries its place, the NAL header and its data. -/
theorem h265Carried_fuPayload {b₀ b₁ : UInt8} (hforbidden : b₀ &&& 0x80 = 0) (p : Piece) :
    h265Carried (fuPayload (fuHeaderH265 b₀ b₁) p) =
      .fragment p.start p.stop [b₀, b₁] p.data := by
  obtain ⟨⟨htype, hstart, hstop⟩, hheader⟩ := payloadHeaderH265_bits b₀ p.start p.stop
  simp only [fuPayload, fuHeaderH265_eq, List.cons_append, List.nil_append, h265Carried,
    htype, hheader hforbidden, hstart, hstop]
  rfl

/-- The types of NAL units that H.265 sends as they are. -/
def SingleUnitH265 (nal : List UInt8) : Prop :=
  ∀ b ∈ nal.head?, (b >>> 1) &&& 0x3F ≤ 47

/-- A receiver makes the NAL unit of its payloads. -/
theorem depacketize_h265Payloads {nal : List UInt8} (hlength : 2 ≤ nal.length)
    (hforbidden : ∀ b ∈ nal.head?, b &&& 0x80 = 0) (htype : SingleUnitH265 nal) :
    depacketize h265Carried (h265Payloads nal) = [nal] := by
  match nal, hlength with
  | b₀ :: b₁ :: data, _ =>
    by_cases hfits : (b₀ :: b₁ :: data).length ≤ maxPayloadH265
    · rw [h265Payloads_of_le hfits]
      exact depacketize_unit (by simp only [h265Carried, if_pos (htype b₀ rfl)])
    · rw [h265Payloads_cons hfits]
      exact depacketize_pieces (h265Carried_fuPayload (hforbidden b₀ rfl)) data

/-! ### The packets of one NAL unit -/

/-- The payloads of a codec fit into packets of the size that the sender allows. -/
theorem length_le_of_mem_sentPayloads {codec : Codec} {data payload : List UInt8}
    (hpayload : payload ∈ codec.sentPayloads data) :
    rtpHeaderSize + payload.length ≤ maxRtpPacketSize := by
  have hpiece (headerLength : ℕ) {limit : ℕ} [NeZero limit]
      {fuHeader : Bool → Bool → List UInt8} {rest : List UInt8}
      (hheader : ∀ start stop, (fuHeader start stop).length = headerLength)
      (hmem : payload ∈ (pieces limit true rest).map (fuPayload fuHeader)) :
      payload.length ≤ headerLength + limit := by
    obtain ⟨p, hp, rfl⟩ := List.mem_map.mp hmem
    have := length_le_of_mem_pieces hp
    rw [fuPayload, List.length_append, hheader]
    omega
  cases codec with
  | h264 =>
    simp only [Codec.sentPayloads] at hpayload
    split_ifs at hpayload with hshort
    · obtain rfl := List.mem_singleton.mp hpayload
      simp only [rtpHeaderSize, maxRtpPacketSize] at hshort ⊢
      omega
    · simp at hpayload
    · unfold h264Payloads at hpayload
      split at hpayload
      case isTrue hfits =>
        obtain rfl := List.mem_singleton.mp hpayload
        simp only [maxPayloadH264, rtpHeaderSize, maxRtpPacketSize] at hfits ⊢
        omega
      case isFalse =>
        split at hpayload
        · simp at hpayload
        · have := hpiece 2 (fun _ _ => rfl) hpayload
          simp only [maxPayloadH264, rtpHeaderSize, maxRtpPacketSize] at this ⊢
          omega
  | h265 =>
    simp only [Codec.sentPayloads, h265Payloads] at hpayload
    split at hpayload
    case isTrue hfits =>
      obtain rfl := List.mem_singleton.mp hpayload
      simp only [maxPayloadH265, rtpHeaderSize, maxRtpPacketSize] at hfits ⊢
      omega
    case isFalse =>
      split at hpayload
      · have := hpiece 3 (fun _ _ => rfl) hpayload
        simp only [maxPayloadH265, rtpHeaderSize, maxRtpPacketSize] at this ⊢
        omega
      · simp at hpayload

/-- What a client can say of the calls made for one NAL unit. -/
def Client.ReceivesNal (client : Client) (nal : List UInt8) (timestamp : UInt32) (marker : Bool)
    (calls : List Call) : Prop :=
  ∃ packets ∈ client.received calls,
    depacketize client.codec.carried (packets.map (·.payload)) = [nal] ∧
    Consecutive client.rtpSeq (packets.map (·.sequenceNumber)) ∧
    (∀ p ∈ packets, p.timestamp = timestamp ∧ p.ssrc = client.rtpSsrc ∧
      p.encode.length ≤ maxRtpPacketSize) ∧
    packets.map (·.marker) = List.replicate (packets.length - 1) false ++ [marker]

instance (client : Client) (nal : List UInt8) (timestamp : UInt32) (marker : Bool)
    (calls : List Call) : Decidable (client.ReceivesNal nal timestamp marker calls) :=
  inferInstanceAs (Decidable (∃ packets ∈ client.received calls, _ ∧ _ ∧ _ ∧ _))

/-- The NAL units that a packetizer is handed. -/
structure IsNalUnit (codec : Codec) (nal : List UInt8) : Prop where
  header : nal ≠ [] ∧ (codec = .h265 → 2 ≤ nal.length)
  length : codec = .h264 → nal.length ≤ 300 * 1024
  startCode : skipStartCode nal = nal
  forbiddenZeroBit : ∀ b ∈ nal.head?, b &&& 0x80 = 0

/-- The type of the unit is not one of those of the payload format itself. -/
def SingleUnit (codec : Codec) (nal : List UInt8) : Prop :=
  match codec with
  | .h264 => SingleUnitH264 nal
  | .h265 => SingleUnitH265 nal

/-- The payloads of a NAL unit give the unit back. -/
theorem depacketize_sentPayloads {codec : Codec} {nal : List UInt8} (hnal : IsNalUnit codec nal)
    (htype : SingleUnit codec nal) :
    depacketize codec.carried (codec.sentPayloads nal) = [nal] := by
  cases codec with
  | h264 =>
    have hunit := depacketize_h264Payloads hnal.header.1 hnal.forbiddenZeroBit htype
    simp only [Codec.sentPayloads, hnal.startCode]
    split_ifs with hshort hlarge
    · rwa [h264Payloads_of_le (hshort.trans (by decide))] at hunit
    · exact absurd (hnal.length rfl) (Nat.not_le.mpr hlarge)
    · exact hunit
  | h265 =>
    rw [Codec.sentPayloads, hnal.startCode]
    exact depacketize_h265Payloads (hnal.header.2 rfl) hnal.forbiddenZeroBit htype

theorem h264Payloads_ne_nil {nal : List UInt8} (hne : nal ≠ []) : h264Payloads nal ≠ [] := by
  obtain ⟨nalHeader, data, rfl⟩ := List.exists_cons_of_ne_nil hne
  by_cases hfits : (nalHeader :: data).length ≤ maxPayloadH264
  · simp [h264Payloads_of_le hfits]
  · simp [h264Payloads_cons hfits, pieces_ne_nil]

theorem h265Payloads_ne_nil {nal : List UInt8} (hlength : 2 ≤ nal.length) :
    h265Payloads nal ≠ [] := by
  match nal, hlength with
  | b₀ :: b₁ :: data, _ =>
    by_cases hfits : (b₀ :: b₁ :: data).length ≤ maxPayloadH265
    · simp [h265Payloads_of_le hfits]
    · simp [h265Payloads_cons hfits, pieces_ne_nil]

theorem Codec.payloadType_lt (codec : Codec) : codec.payloadType < 128 := by
  cases codec <;> decide

/-- What the sender puts on the wire for payloads of its size reaches the client. -/
theorem Sender.Emits.received {s s' : Sender} {codec : Codec} {timestamp : UInt32} {marker : Bool}
    {payloads : List (List UInt8)}
    (h : s.Emits s' (packetize (s.client.stream codec timestamp) marker s.client.rtpSeq payloads))
    (hlength : ∀ payload ∈ payloads, rtpHeaderSize + payload.length ≤ maxRtpPacketSize) :
    s.client.received (s'.calls.drop s.calls.length) =
      some (packetize (s.client.stream codec timestamp) marker s.client.rtpSeq payloads) := by
  obtain ⟨calls, hcalls, hcarries⟩ := h.calls
  rw [hcalls, List.drop_left]
  refine hcarries.received (fun p hp => ?_) fun p hp => ?_
  · obtain ⟨htype, -⟩ := mem_packetize hp
    rw [htype]
    exact codec.payloadType_lt
  · obtain ⟨-, -, -, hpayload⟩ := mem_packetize hp
    have := hlength _ hpayload
    rw [Packet.encode_length]
    simp only [rtpHeaderSize, maxRtpPacketSize] at this
    omega

/-- A playing client gets back every NAL unit of a type that is sent as it is,
in packets that are numbered, timed and marked as asked. -/
theorem sendRtpPacket_receivesNal {net : Network} (hnet : net.Succeeds) (s : Sender)
    {nal : List UInt8} (timestamp : UInt32) (marker : Bool)
    (hplaying : s.client.state = .playing)
    (hsocket : s.client.transportMode = .udp → 0 ≤ s.client.rtpSocketFd)
    (hnal : IsNalUnit s.client.codec nal) (htype : SingleUnit s.client.codec nal) :
    s.client.ReceivesNal nal timestamp marker
      ((sendRtpPacket net s nal timestamp marker).1.calls.drop s.calls.length) := by
  have hsend : s.client.CanSend nal :=
    ⟨hplaying, hsocket, fun hcodec => by rw [hnal.startCode]; exact hnal.header.2 hcodec⟩
  have hemits := sendRtpPacket_emits hnet s timestamp marker hsend
  have hunits := depacketize_sentPayloads hnal htype
  have hne : s.client.codec.sentPayloads nal ≠ [] := by
    intro hnil
    rw [hnil] at hunits
    cases hunits
  refine ⟨_, hemits.received fun _ => length_le_of_mem_sentPayloads, ?_, packetize_consecutive,
    fun p hp => ?_, ?_⟩
  · rwa [packetize_payload]
  · obtain ⟨-, htime, hssrc, hpayload⟩ := mem_packetize hp
    refine ⟨htime, hssrc, ?_⟩
    rw [Packet.encode_length]
    exact length_le_of_mem_sentPayloads hpayload
  · rw [packetize_marker hne, packetize_length]

/-- A client that plays over UDP. -/
def udpClient (codec : Codec) : Client :=
  { Client.initial with
    state := .playing, rtpSocketFd := 5, codec, rtpSeq := 65535, active := true }

/-- Nothing has been sent to it yet. -/
def udpSender (codec : Codec) : Sender := ⟨udpClient codec, []⟩

/-- A network on which every call succeeds. -/
def goodNetwork : Network := fun _ bytes => bytes.length

theorem goodNetwork_succeeds : goodNetwork.Succeeds := fun _ _ => rfl

/-- An IDR slice with `n` bytes of data. -/
def idrSlice (n : ℕ) : List UInt8 := 0x65 :: List.replicate n 1

theorem idrSlice_isNalUnit {n : ℕ} (hn : n < 300 * 1024) : IsNalUnit .h264 (idrSlice n) where
  header := ⟨List.cons_ne_nil _ _, nofun⟩
  length := fun _ => by
    rw [idrSlice, List.length_cons, List.length_replicate]
    exact hn
  startCode := rfl
  forbiddenZeroBit := fun b hb => by
    obtain rfl := Option.some.inj hb
    decide

theorem idrSlice_singleUnit (n : ℕ) : SingleUnit .h264 (idrSlice n) := fun b hb => by
  obtain rfl := Option.some.inj hb
  decide

/-- An IDR slice of five kilobytes reaches a client, over the wrap of the
sequence numbers. -/
theorem sendRtpPacket_receivesNal_idrSlice :
    (udpSender .h264).client.ReceivesNal (idrSlice 5000) 90000 true
      ((sendRtpPacket goodNetwork (udpSender .h264) (idrSlice 5000) 90000 true).1.calls.drop
        (udpSender .h264).calls.length) :=
  sendRtpPacket_receivesNal goodNetwork_succeeds (udpSender .h264) 90000 true rfl
    (fun _ => by decide) (idrSlice_isNalUnit (by decide)) (idrSlice_singleUnit 5000)

/-- A unit of one byte with the type of fragments does not reach the client. -/
theorem fragmentType_not_received :
    ¬∀ (net : Network) (s : Sender) (nal : List UInt8) (timestamp : UInt32) (marker : Bool),
      net.Succeeds → s.client.state = .playing → IsNalUnit s.client.codec nal →
      s.client.ReceivesNal nal timestamp marker
        ((sendRtpPacket net s nal timestamp marker).1.calls.drop s.calls.length) := fun h =>
  absurd (h goodNetwork (udpSender .h264) [0x1C] 0 true goodNetwork_succeeds rfl
    ⟨⟨by decide, nofun⟩, fun _ => by decide, rfl, by decide +kernel⟩) (by decide +kernel)

end Rtsp
