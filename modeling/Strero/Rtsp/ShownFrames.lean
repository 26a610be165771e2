import Mathlib.Data.List.Forall2
import Strero.Rtsp.NalSplitting
import Strero.Rtsp.PayloadRoundTrip
import Strero.Rtsp.ServerSend

/-!
# The frames that a viewer is shown

A frame of the encoder is made up of NAL units. A client that plays its channel is sent the units in
packets with one timestamp, numbered behind those of the frame before, and the marker ends the
frame. While the client waits for a key frame it may be passed over.
-/

namespace Rtsp

open AnnexB Rtp

/-! ### Frames of NAL units -/

/-- A frame with room in `nal_offsets` for its units, none of which ends in a zero. -/
structure UnitFrame where
  units : List CodedUnit
  ne_nil : units ≠ []
  room : units.length ≤ 32
  ends : ∀ u ∈ units, ¬u.nal.EndsInZero

/-- The frame as the encoder delivers it. -/
def UnitFrame.bytes (f : UnitFrame) : List UInt8 := assemble f.units

/-- The units without their start codes. -/
def UnitFrame.nals (f : UnitFrame) : List (List UInt8) := f.units.map (·.nal.bytes)

/-- The units can be sent to a client of the codec, which gets them back. -/
def UnitFrame.Suits (f : UnitFrame) (codec : Codec) : Prop :=
  ∀ nal ∈ f.nals, IsNalUnit codec nal ∧ SingleUnit codec nal

/-- The payloads of the packets for a frame. -/
def UnitFrame.payloads (f : UnitFrame) (codec : Codec) : List (List UInt8) :=
  f.nals.flatMap codec.sentPayloads

variable {f : UnitFrame} {net : Network} {s s' : Sender} {codec : Codec}

theorem UnitFrame.nals_ne_nil (f : UnitFrame) : f.nals ≠ [] :=
  fun h => f.ne_nil (List.map_eq_nil_iff.mp h)

/-- The frame is longer than a start code. -/
theorem UnitFrame.length_bytes (f : UnitFrame) : 4 ≤ f.bytes.length := by
  obtain ⟨u, rest, hunits⟩ := List.exists_cons_of_ne_nil f.ne_nil
  have hnal := u.nal.length_pos
  rw [UnitFrame.bytes, hunits, assemble_cons, List.length_append, List.length_append]
  cases u.code <;> simp only [StartCode.bytes, List.length_cons, List.length_nil] <;> omega

/-- The search finds the units. -/
theorem UnitFrame.findNals_eq (f : UnitFrame) :
    findNals f.bytes 0 [] = some (unitRanges 0 f.units) := by
  have hroom : ([] : List NalRange).length + f.units.length ≤ 32 := by simpa using f.room
  have hframe : f.bytes = [] ++ assemble f.units := rfl
  simpa using findNals_assemble f.units f.ends hframe hroom

/-- The units are passed on with the marker on the last of them. -/
theorem UnitFrame.passedNals_eq (f : UnitFrame) :
    passedNals f.bytes (unitRanges 0 f.units) = markLast f.nals := by
  have hframe : f.bytes = [] ++ assemble f.units := rfl
  exact passedNals_assemble f.units hframe

/-- The frame can be taken apart. -/
theorem UnitFrame.splitsInBounds (f : UnitFrame) : SplitsInBounds f.bytes := by
  have hlength := f.length_bytes
  have hroom : ([] : List NalRange).length ≤ 32 := Nat.zero_le 32
  have hfound : (findNals f.bytes 0 []).isSome = true := by
    rw [f.findNals_eq]
    rfl
  rw [findNals_isSome_iff hroom, List.length_nil, Nat.zero_add, List.drop_zero] at hfound
  exact ⟨by omega, hfound⟩

/-- What is sent for a unit gives it back, whatever is sent before and after. -/
theorem delivers_sentPayloads {nal : List UInt8} (hnal : IsNalUnit codec nal)
    (htype : SingleUnit codec nal) : Delivers codec.carried (codec.sentPayloads nal) [nal] := by
  cases codec with
  | h264 =>
    obtain ⟨nalHeader, data, rfl⟩ := List.exists_cons_of_ne_nil hnal.header.1
    have hunit : Delivers h264Carried [nalHeader :: data] [nalHeader :: data] :=
      delivers_unit (by simp only [h264Carried, if_pos (htype nalHeader rfl)])
    simp only [Codec.sentPayloads, hnal.startCode]
    split_ifs with hshort hlarge
    · exact hunit
    · exact absurd (hnal.length rfl) (Nat.not_le.mpr hlarge)
    · by_cases hfits : (nalHeader :: data).length ≤ maxPayloadH264
      · rw [h264Payloads_of_le hfits]
        exact hunit
      · rw [h264Payloads_cons hfits]
        exact delivers_pieces (h264Carried_fuPayload (hnal.forbiddenZeroBit nalHeader rfl)) data
  | h265 =>
    obtain ⟨b₀, rest, rfl⟩ := List.exists_cons_of_ne_nil hnal.header.1
    obtain ⟨b₁, data, rfl⟩ :=
      List.exists_cons_of_length_pos (Nat.le_of_succ_le_succ (hnal.header.2 rfl))
    rw [Codec.sentPayloads, hnal.startCode]
    by_cases hfits : (b₀ :: b₁ :: data).length ≤ maxPayloadH265
    · have hunit : h265Carried (b₀ :: b₁ :: data) = .unit (b₀ :: b₁ :: data) := by
        simp only [h265Carried, if_pos (htype b₀ rfl)]
      rw [h265Payloads_of_le hfits]
      exact delivers_unit hunit
    · rw [h265Payloads_cons hfits]
      exact delivers_pieces (h265Carried_fuPayload (hnal.forbiddenZeroBit b₀ rfl)) data

theorem UnitFrame.delivers (hsuits : f.Suits codec) :
    Delivers codec.carried (f.payloads codec) f.nals :=
  Delivers.flatMap fun nal hnal => delivers_sentPayloads (hsuits nal hnal).1 (hsuits nal hnal).2

theorem UnitFrame.payloads_ne_nil (hsuits : f.Suits codec) : f.payloads codec ≠ [] := by
  intro hnil
  have hunits := (UnitFrame.delivers hsuits).depacketize_eq
  rw [hnil] at hunits
  exact f.nals_ne_nil hunits.symm

theorem UnitFrame.length_payload_le {payload : List UInt8} (h : payload ∈ f.payloads codec) :
    rtpHeaderSize + payload.length ≤ maxRtpPacketSize := by
  obtain ⟨nal, -, hmem⟩ := List.mem_flatMap.mp h
  exact length_le_of_mem_sentPayloads hmem

/-! ### What a client can say of the packets -/

/-- The packets of a frame: its units, with one timestamp, and the marker on the last packet. -/
structure Client.Sees (client : Client) (f : UnitFrame) (group : List Packet) : Prop where
  units : depacketize client.codec.carried (group.map (·.payload)) = f.nals
  timestamp : ∃ timestamp, ∀ p ∈ group, p.timestamp = timestamp ∧ p.ssrc = client.rtpSsrc
  marker : group.map (·.marker) = List.replicate (group.length - 1) false ++ [true]

/-- The calls carry the frames to the client, in packets that are numbered without gap. -/
def Client.Watches (client : Client) (frames : List UnitFrame) (calls : List Call) : Prop :=
  ∃ groups : List (List Packet), client.received calls = some groups.flatten ∧
    Consecutive client.rtpSeq (groups.flatten.map (·.sequenceNumber)) ∧
    depacketize client.codec.carried (groups.flatten.map (·.payload)) =
      frames.flatMap UnitFrame.nals ∧
    List.Forall₂ client.Sees frames groups

/-- The packets of a frame as the sender makes them. -/
structure Client.Packs (client : Client) (f : UnitFrame) (group : List Packet) : Prop where
  suits : f.Suits client.codec
  group : ∃ timestamp sequenceNumber, group =
    packetize (client.stream client.codec timestamp) true sequenceNumber (f.payloads client.codec)

/-- From `s` to `s'` the frames are sent. The mark of the wait does not matter to the packets. -/
structure Sender.Shows (s s' : Sender) (frames : List UnitFrame) (groups : List (List Packet)) :
    Prop where
  emits : s.clearNeedsIdr.Emits s'.clearNeedsIdr groups.flatten
  consecutive : Consecutive s.client.rtpSeq (groups.flatten.map (·.sequenceNumber))
  packs : List.Forall₂ s.client.Packs frames groups

theorem Client.Packs.sees {client : Client} {group : List Packet} (h : client.Packs f group) :
    client.Sees f group := by
  obtain ⟨timestamp, sequenceNumber, rfl⟩ := h.group
  refine ⟨?_, ⟨timestamp, fun p hp => ?_⟩, ?_⟩
  · rw [packetize_payload]
    exact (UnitFrame.delivers h.suits).depacketize_eq
  · obtain ⟨-, htime, hssrc, -⟩ := mem_packetize hp
    exact ⟨htime, hssrc⟩
  · rw [packetize_marker (UnitFrame.payloads_ne_nil h.suits), packetize_length]

theorem Client.Packs.delivers {client : Client} {group : List Packet} (h : client.Packs f group) :
    Delivers client.codec.carried (group.map (·.payload)) f.nals := by
  obtain ⟨timestamp, sequenceNumber, rfl⟩ := h.group
  rw [packetize_payload]
  exact UnitFrame.delivers h.suits

/-- The packets are of a kind and a size that the client can read. -/
theorem Client.Packs.readable {client : Client} {group : List Packet} (h : client.Packs f group) :
    ∀ p ∈ group, p.payloadType < 128 ∧ p.encode.length < 2 ^ 16 := by
  obtain ⟨timestamp, sequenceNumber, rfl⟩ := h.group
  intro p hp
  obtain ⟨htype, -, -, hpayload⟩ := mem_packetize hp
  have hlength := UnitFrame.length_payload_le hpayload
  rw [htype, Packet.encode_length]
  simp only [rtpHeaderSize, maxRtpPacketSize] at hlength
  exact ⟨client.codec.payloadType_lt, by omega⟩

/-- One frame after the other gives all units. -/
theorem delivers_flatten {client : Client} {frames : List UnitFrame} {groups : List (List Packet)}
    (h : List.Forall₂ client.Packs frames groups) :
    Delivers client.codec.carried (groups.flatten.map (·.payload))
      (frames.flatMap UnitFrame.nals) := by
  induction h with
  | nil => exact delivers_nil
  | cons hfirst _ ih =>
    rw [List.flatten_cons, List.map_append, List.flatMap_cons]
    exact hfirst.delivers.append ih

theorem readable_flatten {client : Client} {frames : List UnitFrame} {groups : List (List Packet)}
    (h : List.Forall₂ client.Packs frames groups) :
    ∀ p ∈ groups.flatten, p.payloadType < 128 ∧ p.encode.length < 2 ^ 16 := by
  induction h with
  | nil => exact fun _ hp => absurd hp List.not_mem_nil
  | cons hfirst _ ih =>
    intro p hp
    rw [List.flatten_cons, List.mem_append] at hp
    rcases hp with hp | hp
    · exact hfirst.readable p hp
    · exact ih p hp

/-- What was sent reaches the client. -/
theorem Sender.Shows.watches {frames : List UnitFrame} {groups : List (List Packet)}
    (h : s.Shows s' frames groups) :
    s.client.Watches frames (s'.calls.drop s.calls.length) := by
  obtain ⟨calls, hcalls, hcarries⟩ := h.emits.calls
  have hreadable := readable_flatten h.packs
  have hmade : s'.calls = s.calls ++ calls := hcalls
  refine ⟨groups, ?_, h.consecutive, (delivers_flatten h.packs).depacketize_eq,
    List.Forall₂.imp (fun _ _ hpacks => hpacks.sees) h.packs⟩
  rw [hmade, List.drop_left]
  have hreceived : s.clearNeedsIdr.client.received calls = some groups.flatten :=
    hcarries.received (fun p hp => (hreadable p hp).1) fun p hp => (hreadable p hp).2
  exact hreceived

/-! ### Sending a frame -/

theorem Sender.shows_nil (s : Sender) : s.Shows s [] [] :=
  ⟨s.clearNeedsIdr.emits_nil, trivial, .nil⟩

/-- Sending changes the number of the next packet and the wait. -/
theorem Sender.Shows.client_eq {frames : List UnitFrame} {groups : List (List Packet)}
    (h : s.Shows s' frames groups) :
    s'.client = { s.client with
      rtpSeq := s.client.rtpSeq + UInt16.ofNat groups.flatten.length
      needsIdr := s'.client.needsIdr } := by
  have hclient : { s'.client with needsIdr := false } = { s.client with
      rtpSeq := s.client.rtpSeq + UInt16.ofNat groups.flatten.length, needsIdr := false } :=
    h.emits.client
  calc
    s'.client = { { s'.client with needsIdr := false } with needsIdr := s'.client.needsIdr } := rfl
    _ = _ := by rw [hclient]

/-- Frames are shown behind those before. -/
theorem Sender.Shows.trans {s'' : Sender} {frames frames' : List UnitFrame}
    {groups groups' : List (List Packet)} (h : s.Shows s' frames groups)
    (h' : s'.Shows s'' frames' groups') : s.Shows s'' (frames ++ frames') (groups ++ groups') := by
  have hclient := h.client_eq
  refine ⟨?_, ?_, ?_⟩
  · rw [List.flatten_append]
    exact h.emits.trans h'.emits
  · have hnext := h'.consecutive
    rw [hclient] at hnext
    rw [List.flatten_append, List.map_append, consecutive_append, List.length_map]
    exact ⟨h.consecutive, hnext⟩
  · have hpacks : List.Forall₂ s.client.Packs frames' groups' := by
      refine List.Forall₂.imp (fun f group hpacks => ?_) h'.packs
      have hcodec : s'.client.codec = s.client.codec := by rw [hclient]
      have hstream : ∀ codec timestamp,
          s'.client.stream codec timestamp = s.client.stream codec timestamp := by
        intro codec timestamp
        rw [hclient]
        rfl
      obtain ⟨timestamp, sequenceNumber, hgroup⟩ := hpacks.group
      rw [hcodec, hstream] at hgroup
      exact ⟨hcodec ▸ hpacks.suits, timestamp, sequenceNumber, hgroup⟩
    exact List.rel_append h.packs hpacks

/-- The end of the wait sends nothing. -/
theorem Sender.Shows.clear_right {frames : List UnitFrame} {groups : List (List Packet)}
    (h : s.Shows s' frames groups) : s.Shows s'.clearNeedsIdr frames groups :=
  ⟨h.emits, h.consecutive, h.packs⟩

theorem Sender.Shows.clear_left {frames : List UnitFrame} {groups : List (List Packet)}
    (h : s.clearNeedsIdr.Shows s' frames groups) : s.Shows s' frames groups :=
  ⟨h.emits, h.consecutive,
    List.Forall₂.imp (fun _ _ hpacks => ⟨hpacks.suits, hpacks.group⟩) h.packs⟩

/-- What the network takes is sent in the packets of all units. -/
theorem sendPassed_emits (hnet : net.Succeeds) (timestamp : UInt32) (s : Sender)
    (hplaying : s.client.state = .playing)
    (hsocket : s.client.transportMode = .udp → 0 ≤ s.client.rtpSocketFd) (nals : List (List UInt8))
    (hnals : ∀ nal ∈ nals, IsNalUnit s.client.codec nal ∧ SingleUnit s.client.codec nal) :
    s.Emits (sendPassed net timestamp s (markLast nals))
      (packetize (s.client.stream s.client.codec timestamp) true s.client.rtpSeq
        (nals.flatMap s.client.codec.sentPayloads)) := by
  induction nals generalizing s with
  | nil => exact s.emits_nil
  | cons nal nals ih =>
    obtain ⟨⟨hnal, -⟩, hrest⟩ := List.forall_mem_cons.mp hnals
    have hfirst := sendRtpPacket_emits hnet s timestamp nals.isEmpty ⟨hplaying, hsocket,
      fun hcodec => by rw [hnal.startCode]; exact hnal.header.2 hcodec⟩
    rw [markLast, sendPassed, List.foldl_cons, ← sendPassed, List.flatMap_cons]
    dsimp only
    generalize (sendRtpPacket net s nal timestamp nals.isEmpty).1 = s₁ at hfirst ⊢
    have hclient := hfirst.client
    have hothers := ih s₁ (by rw [hclient]; exact hplaying) (by rw [hclient]; exact hsocket)
      (by rw [hclient]; exact hrest)
    cases nals with
    | nil =>
      rw [List.flatMap_nil, List.append_nil]
      exact hfirst
    | cons next nals =>
      have hne : (next :: nals).flatMap s.client.codec.sentPayloads ≠ [] := by
        intro hnil
        have hnext := (List.forall_mem_cons.mp hrest).1
        have hunit := (delivers_sentPayloads hnext.1 hnext.2).depacketize_eq
        rw [List.flatMap_cons, List.append_eq_nil_iff] at hnil
        rw [hnil.1] at hunit
        cases hunit
      rw [hclient] at hothers
      have htrans := hfirst.trans hothers
      rw [packetize_length] at htrans
      rw [packetize_append hne]
      exact htrans

/-- A frame of units that suit the client is sent. -/
theorem sendFrameToClient_shows (hnet : net.Succeeds) (clock : RtpClock) (s : Sender)
    (hplaying : s.client.state = .playing)
    (hsocket : s.client.transportMode = .udp → 0 ≤ s.client.rtpSocketFd)
    (hsuits : f.Suits s.client.codec) (channel : Fin 4) (currentTime : UInt64) (random : UInt32) :
    ∃ r group, sendFrameToClient net clock s f.bytes channel currentTime random = some r ∧
      s.Shows r.2.1 [f] [group] := by
  have hlength := f.length_bytes
  let stamped := calculateMonotonicRtpTimestamp clock channel currentTime random
  have hemits := sendPassed_emits hnet stamped.2 s hplaying hsocket f.nals hsuits
  refine ⟨(stamped.1, sendPassed net stamped.2 s (markLast f.nals), f.units.length),
    packetize (s.client.stream s.client.codec stamped.2) true s.client.rtpSeq
      (f.payloads s.client.codec), ?_,
    ⟨?_, ?_, .cons ⟨hsuits, stamped.2, s.client.rtpSeq, rfl⟩ .nil⟩⟩
  · rw [sendFrameToClient, if_neg (by omega), if_neg (not_not.mpr hplaying), if_neg (by omega),
      f.findNals_eq, Option.map_some]
    dsimp only
    rw [sendNals_eq, f.passedNals_eq, unitRanges_length]
  · rw [List.flatten_singleton]
    obtain ⟨calls, hcalls, hcarries⟩ := hemits.calls
    refine ⟨?_, calls, hcalls, hcarries⟩
    rw [Sender.clearNeedsIdr, hemits.client]
    rfl
  · rw [List.flatten_singleton]
    exact packetize_consecutive

/-! ### Offering a frame -/

/-- Whether the client still waits after the offer. -/
def Offer.waits (needsIdr : Bool) : Offer → Bool
  | .dropped | .sent => needsIdr
  | .sentAsKey | .sentByTimeout => false

/-- What the client is shown by the offer. -/
def Offer.shown (f : UnitFrame) : Offer → List UnitFrame
  | .dropped => []
  | .sent | .sentAsKey | .sentByTimeout => [f]

/-- The client is shown the frame unless it is passed over. -/
theorem offerFrame_shows (hnet : net.Succeeds) (clock : RtpClock) (s : Sender)
    (hsocket : s.client.transportMode = .udp → 0 ≤ s.client.rtpSocketFd)
    (hsuits : f.Suits s.client.codec) {frame : LiveFrame} (hdata : frame.data = f.bytes)
    (hplays : s.client.plays frame.channel) :
    ∃ r groups, s.offerFrame net clock frame = some r ∧
      s.Shows r.2 ((frame.offer s.client.needsIdr s.client.idrWaitStartUs).shown f) groups ∧
      r.2.client.needsIdr =
        (frame.offer s.client.needsIdr s.client.idrWaitStartUs).waits s.client.needsIdr := by
  unfold Sender.offerFrame
  rw [if_pos hplays, hdata]
  have hsend : ∀ s₁ : Sender, s₁.client.state = .playing →
      (s₁.client.transportMode = .udp → 0 ≤ s₁.client.rtpSocketFd) → f.Suits s₁.client.codec →
      ∃ r group, sendFrameToClient net clock s₁ f.bytes frame.channel frame.sendTime
        frame.random = some r ∧ s₁.Shows r.2.1 [f] [group] ∧
          r.2.1.client.needsIdr = s₁.client.needsIdr := by
    intro s₁ hplaying hsocket hsuits
    obtain ⟨r, group, hsent, hshows⟩ := sendFrameToClient_shows hnet clock s₁ hplaying hsocket
      hsuits frame.channel frame.sendTime frame.random
    obtain ⟨rtpSeq, hclient⟩ := sendFrameToClient_client hsent
    exact ⟨r, group, hsent, hshows, by rw [hclient]⟩
  cases hoffer : frame.offer s.client.needsIdr s.client.idrWaitStartUs with
  | dropped => exact ⟨_, [], rfl, s.shows_nil, rfl⟩
  | sent =>
    obtain ⟨r, group, hsent, hshows, hwaits⟩ := hsend s hplays.2.1 hsocket hsuits
    exact ⟨(r.1, r.2.1), [group], by dsimp only; rw [hsent]; rfl, hshows, hwaits⟩
  | sentAsKey =>
    obtain ⟨r, group, hsent, hshows, -⟩ := hsend s hplays.2.1 hsocket hsuits
    exact ⟨(r.1, r.2.1.clearNeedsIdr), [group], by dsimp only; rw [hsent]; rfl,
      hshows.clear_right, rfl⟩
  | sentByTimeout =>
    obtain ⟨r, group, hsent, hshows, hwaits⟩ :=
      hsend s.clearNeedsIdr hplays.2.1 hsocket hsuits
    exact ⟨(r.1, r.2.1), [group], by dsimp only; rw [hsent]; rfl, hshows.clear_left, hwaits⟩

/-- A client that does not play the channel is passed over. -/
theorem offerFrame_of_not_plays (net : Network) (clock : RtpClock) {frame : LiveFrame}
    (hplays : ¬s.client.plays frame.channel) : s.offerFrame net clock frame = some (clock, s) := by
  unfold Sender.offerFrame
  rw [if_neg hplays]

variable {nets : Slot → Network} {frame : LiveFrame} {sendTimes : Slot → UInt64}
  {slots : List Slot} {viewers viewers' : Viewers} {slot : Slot}

/-- A turn of the loop is about one slot. -/
theorem offerTo_other {other : Slot} (hne : slot ≠ other)
    (h : offerTo nets frame sendTimes viewers other = some viewers') :
    viewers'.2 slot = viewers.2 slot := by
  obtain ⟨r, -, rfl⟩ := Option.map_eq_some_iff.mp h
  exact Function.update_of_ne hne r.2 viewers.2

theorem foldlM_offerTo_of_notMem (hslot : slot ∉ slots)
    (h : slots.foldlM (offerTo nets frame sendTimes) viewers = some viewers') :
    viewers'.2 slot = viewers.2 slot := by
  induction slots generalizing viewers with
  | nil => exact congrArg (·.2 slot) (Option.some.inj h).symm
  | cons first slots ih =>
    obtain ⟨hne, hslot⟩ := not_or.mp (mt List.mem_cons.mpr hslot)
    rw [List.foldlM_cons] at h
    obtain ⟨next, hfirst, hrest⟩ := Option.bind_eq_some_iff.mp h
    rw [ih hslot hrest, offerTo_other hne hfirst]

/-- The loop offers the frame to each client once. -/
theorem foldlM_offerTo_of_mem (hnodup : slots.Nodup) (hslot : slot ∈ slots)
    (h : slots.foldlM (offerTo nets frame sendTimes) viewers = some viewers') :
    ∃ clock clock', (viewers.2 slot).offerFrame (nets slot) clock
      { frame with sendTime := sendTimes slot } = some (clock', viewers'.2 slot) := by
  induction slots generalizing viewers with
  | nil => cases hslot
  | cons first slots ih =>
    obtain ⟨hnotMem, hnodup⟩ := List.nodup_cons.mp hnodup
    rw [List.foldlM_cons] at h
    obtain ⟨next, hfirst, hrest⟩ := Option.bind_eq_some_iff.mp h
    by_cases hsame : slot = first
    · subst hsame
      rw [foldlM_offerTo_of_notMem hnotMem hrest]
      obtain ⟨r, hoffer, rfl⟩ := Option.map_eq_some_iff.mp hfirst
      refine ⟨viewers.1, r.1, ?_⟩
      rw [hoffer]
      dsimp only
      rw [Function.update_self]
    · have hbehind := (List.mem_cons.mp hslot).resolve_left hsame
      rw [← offerTo_other hsame hfirst]
      exact ih hnodup hbehind hrest

/-- A frame of units is given to the server without an access outside. -/
theorem rtspServerSendFrame_unitFrame (hdata : frame.data = f.bytes) :
    ∃ viewers', rtspServerSendFrame nets viewers frame sendTimes = some viewers' := by
  refine Option.isSome_iff_exists.mp ((rtspServerSendFrame_isSome_iff _ _ _ _).mpr ?_)
  intro _ _ _
  rw [hdata]
  exact f.splitsInBounds

/-- It is offered to the client of each slot. -/
theorem rtspServerSendFrame_slot (hne : frame.data ≠ [])
    (h : rtspServerSendFrame nets viewers frame sendTimes = some viewers') (slot : Slot) :
    ∃ clock clock', (viewers.2 slot).offerFrame (nets slot) clock
      { frame with sendTime := sendTimes slot } = some (clock', viewers'.2 slot) := by
  have hlength : frame.data.length ≠ 0 := fun hnil => hne (List.length_eq_zero_iff.mp hnil)
  rw [rtspServerSendFrame, if_neg hlength] at h
  have hloop := foldlM_offerTo_of_mem (List.nodup_finRange _) (List.mem_finRange slot) h
  exact hloop

/-- A client that plays the channel is shown the frame unless it is passed over. -/
theorem rtspServerSendFrame_shows (hnet : (nets slot).Succeeds)
    (hsocket : (viewers.2 slot).client.transportMode = .udp →
      0 ≤ (viewers.2 slot).client.rtpSocketFd)
    (hsuits : f.Suits (viewers.2 slot).client.codec) (hdata : frame.data = f.bytes)
    (hplays : (viewers.2 slot).client.plays frame.channel)
    (h : rtspServerSendFrame nets viewers frame sendTimes = some viewers') :
    let offer := frame.offer (viewers.2 slot).client.needsIdr (viewers.2 slot).client.idrWaitStartUs
    ∃ groups, (viewers.2 slot).Shows (viewers'.2 slot) (offer.shown f) groups ∧
      (viewers'.2 slot).client.needsIdr = offer.waits (viewers.2 slot).client.needsIdr := by
  have hlength := f.length_bytes
  have hne : frame.data ≠ [] := by
    rw [hdata]
    exact List.ne_nil_of_length_pos (by omega)
  obtain ⟨clock, clock', hoffer⟩ := rtspServerSendFrame_slot hne h slot
  obtain ⟨r, groups, hsent, hshows, hwaits⟩ :=
    offerFrame_shows hnet clock (viewers.2 slot) hsocket hsuits
      (show LiveFrame.data { frame with sendTime := sendTimes slot } = f.bytes from hdata) hplays
  rw [hoffer] at hsent
  obtain rfl := Option.some.inj hsent
  exact ⟨groups, hshows, hwaits⟩

/-- A client that does not play the channel is left alone. -/
theorem rtspServerSendFrame_of_not_plays (hplays : ¬(viewers.2 slot).client.plays frame.channel)
    (h : rtspServerSendFrame nets viewers frame sendTimes = some viewers') :
    viewers'.2 slot = viewers.2 slot := by
  by_cases hempty : frame.data = []
  · rw [rtspServerSendFrame, if_pos (List.length_eq_zero_iff.mpr hempty)] at h
    exact congrArg (·.2 slot) (Option.some.inj h).symm
  · obtain ⟨clock, clock', hoffer⟩ := rtspServerSendFrame_slot hempty h slot
    have hpassed : (viewers.2 slot).offerFrame (nets slot) clock
        { frame with sendTime := sendTimes slot } = some (clock, viewers.2 slot) :=
      offerFrame_of_not_plays _ _ hplays
    rw [hoffer] at hpassed
    exact (Prod.mk.inj (Option.some.inj hpassed)).2

end Rtsp
