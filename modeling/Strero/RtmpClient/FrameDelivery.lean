import Strero.KeyFrameDetectors
import Strero.RtmpClient.HeaderBuilders
import Strero.RtmpClient.Session

/-!
# A frame for a target

What a target is sent for a frame: the sequence header in front of the first frame, the message
of the frame, and silence behind it. A reader of the format gets the parameter sets and the
units of the frame back.
-/

namespace RtmpClient

open AnnexB Scan Wire Rtmp.ChunkStream
open FrameManager (Frame)

/-! ### The messages of a frame -/

/-- How the calls of `send` for a message end: all of it is taken, or there is an error, and what
has reached the network by the end of the function. -/
inductive Writing
  | whole
  | broken (taken : List UInt8)

/-- A connection, with what is read and written of it for a frame. -/
structure LiveTarget where
  client : Client
  threadRunning : Bool
  socketFd : ℤ
  avcHeaderSent : Bool
  avcWaitStartUs : UInt32
  framesWithoutKeyframe : ℤ

/-- `rtmp_client_send_chunked_message` on the socket. -/
def LiveTarget.sendMessage (k : LiveTarget) (chunkStreamId messageType : UInt8)
    (timestamp : UInt32) (data : List UInt8) : Writing → LiveTarget × Bool
  | .whole =>
    ({ k with client := k.client.sendChunkedMessage chunkStreamId messageType timestamp data },
      (rtmpClientSendChunkedMessage k.client.chunkSizeOut k.client.streamId chunkStreamId
        messageType timestamp data).isSome)
  | .broken taken => ({ k with client := { k.client with wire := k.client.wire ++ taken } }, false)

/-- The sequence header that has been built is sent, unless it has been written outside of its
allocation. -/
def LiveTarget.sendHeader (k : LiveTarget) (writing : Writing) :
    Building → Option (LiveTarget × Bool)
  | .readsOutside => none
  | .givesUp size written => if written ≤ size.toNat then some (k, false) else none
  | .built header =>
    if header.written.length = header.size.toNat then
      some (k.sendMessage 6 9 0 header.written writing)
    else none

/-- What the calls for a frame return: whether the buffers of the message and of a header are
allocated, the clock, and how the messages are sent. -/
structure FrameCalls where
  allocated : Bool
  headerAllocated : Bool
  now : UInt32
  header : Writing
  message : Writing
  silence : Writing

/-- The wait for the parameter sets has lasted longer than five seconds. -/
def LiveTarget.waitIsOver (k : LiveTarget) (calls : FrameCalls) : Bool :=
  5000000 < calls.now - k.avcWaitStartUs

/-- What is done with a key frame before its message, and whether it goes on. -/
def LiveTarget.prepareKeyframe (k : LiveTarget) (frame : Frame)
    (params : Option (ParameterSet × ParameterSet)) (calls : FrameCalls) :
    Option (LiveTarget × Bool) :=
  let k := { k with framesWithoutKeyframe := 0 }
  if k.avcHeaderSent then some (k, true)
  else match params with
    | some (sps, pps) =>
      (k.sendHeader calls.header
        (sendCachedAvcSequenceHeader (some sps) (some pps) calls.headerAllocated)).map
          fun sent => ({ sent.1 with avcHeaderSent := sent.2 }, true)
    | none =>
      (k.sendHeader calls.header (sendAvcSequenceHeaderFromFrame frame calls.headerAllocated)).map
        fun sent =>
          let goesOn := sent.2 || sent.1.waitIsOver calls
          ({ sent.1 with avcHeaderSent := goesOn }, goesOn)

/-- What is done with another frame. -/
def LiveTarget.prepareOther (k : LiveTarget) (params : Option (ParameterSet × ParameterSet))
    (calls : FrameCalls) : Option (LiveTarget × Bool) :=
  let k := { k with framesWithoutKeyframe := k.framesWithoutKeyframe + 1 }
  if k.avcHeaderSent then some (k, true)
  else match params with
    | some (sps, pps) =>
      (k.sendHeader calls.header
        (sendCachedAvcSequenceHeader (some sps) (some pps) calls.headerAllocated)).map
          fun sent => ({ sent.1 with avcHeaderSent := sent.2 }, sent.2)
    | none =>
      let goesOn := k.waitIsOver calls
      some ({ k with avcHeaderSent := goesOn }, goesOn)

/-- `silent_aac_frame`. -/
def silentAacFrame : List UInt8 :=
  [0xAF, 0x01, 0x12, 0x10, 0x56, 0xE5, 0x00, 0x00, 0x00, 0x00, 0x00]

/-- `rtmp_client_send_silent_audio_frame`. -/
def LiveTarget.sendSilentAudioFrame (k : LiveTarget) (timestamp : UInt32) (writing : Writing) :
    LiveTarget :=
  if k.client.phase.isPublishing = false ∨ k.socketFd < 0 then k
  else (k.sendMessage 4 8 timestamp silentAacFrame writing).1

/-- The message of the frame, and silence behind it unless any target has got some within the last
40 milliseconds. A target that the message cannot be sent to is no longer publishing. -/
def LiveTarget.sendFrameMessage (k : LiveTarget) (lastAudioTimestamp : UInt32) (isKeyframe : Bool)
    (frame : Frame) (timestamp : UInt32) (calls : FrameCalls) :
    Option ((LiveTarget × UInt32) × ℤ) :=
  let frameType : UInt8 := if isKeyframe then 1 else 2
  (checkedConvert frame [frameType <<< 4 ||| 7, 1, 0, 0, 0]).map fun message =>
    match message with
    | none => ((k, lastAudioTimestamp), -1)
    | some message =>
      let sent := k.sendMessage 6 9 timestamp message calls.message
      if sent.2 then
        if 40 ≤ timestamp - lastAudioTimestamp then
          ((sent.1.sendSilentAudioFrame timestamp calls.silence, timestamp), 0)
        else ((sent.1, lastAudioTimestamp), 0)
      else (({ sent.1 with client := sent.1.client.disconnect }, lastAudioTimestamp), -1)

/-- `rtmp_client_send_video_frame` with its messages. `lastAudioTimestamp` is a static variable of
the function, which all targets share. -/
def LiveTarget.sendVideoFrame (k : LiveTarget) (lastAudioTimestamp : UInt32) (frame : Frame)
    (timestamp : UInt32) (params : Option (ParameterSet × ParameterSet)) (calls : FrameCalls) :
    Option ((LiveTarget × UInt32) × ℤ) :=
  if frame.data = [] then some ((k, lastAudioTimestamp), -1)
  else if k.client.phase.isPublishing = false then some ((k, lastAudioTimestamp), 0)
  else if k.socketFd < 0 then some ((k, lastAudioTimestamp), 0)
  else if calls.allocated = false then some ((k, lastAudioTimestamp), -1)
  else
    (scanTypes frame).bind fun found =>
      (if found.idr then some 0 else checkedFirstType frame).bind fun _ =>
        (if found.idr then k.prepareKeyframe frame params calls
          else k.prepareOther params calls).bind fun prepared =>
            if prepared.2 then
              prepared.1.sendFrameMessage lastAudioTimestamp found.idr frame timestamp calls
            else some ((prepared.1, lastAudioTimestamp), 0)

/-! ### A reader of the format -/

/-- The body of a video message: a decoder configuration, or a picture in units. -/
inductive VideoTag
  | configuration (record : Avcc.Configuration)
  | picture (isKeyframe : Bool) (units : List (List UInt8))
deriving DecidableEq

/-- The frame type and the codec stand in the first byte, the packet type in the second, and the
composition time is zero. -/
def VideoTag.parse : List UInt8 → Option VideoTag
  | tag :: packetType :: 0 :: 0 :: 0 :: body =>
    if tag &&& 0x0F ≠ 7 then none
    else if packetType = 0 then
      (Avcc.parseConfiguration body).map fun parsed => .configuration parsed.1
    else if packetType = 1 then
      (Avcc.disassemble body).map fun units => .picture (tag >>> 4 == 1) units
    else none
  | _ => none

/-- What the video messages say, with their timestamps. -/
def videos (messages : List ClientMessage) : List (UInt32 × Option VideoTag) :=
  (messages.filter (·.messageType = 9)).map fun m => (m.timestamp, VideoTag.parse m.data)

theorem videos_append (messages later : List ClientMessage) :
    videos (messages ++ later) = videos messages ++ videos later := by
  rw [videos, List.filter_append, List.map_append, videos, videos]

/-- The configuration of an SPS and a PPS. -/
def configurationOf (sps pps : ParameterSet) : Avcc.Configuration where
  profile := sps.bytes.getD 1 0
  compatibility := sps.bytes.getD 2 0
  level := sps.bytes.getD 3 0
  lengthSize := 4
  sequenceSets := [sps.bytes]
  pictureSets := [pps.bytes]

/-- The SPS has the bytes that are repeated, and the lengths fit. -/
structure SetsFit (sets : ParameterSet × ParameterSet) : Prop where
  sps_long : 4 ≤ sets.1.bytes.length
  sps_fits : sets.1.bytes.length < 2 ^ 16
  pps_fits : sets.2.bytes.length < 2 ^ 16

/-- The header of the kept parameter sets is built in its allocation, and read as their
configuration. -/
theorem SetsFit.built {sps pps : ParameterSet} (h : SetsFit (sps, pps)) :
    ∃ header, sendCachedAvcSequenceHeader (some sps) (some pps) true = .built header ∧
      header.written.length = header.size.toNat ∧ header.written ≠ [] ∧
      header.written.length < 2 ^ 24 ∧
      VideoTag.parse header.written = some (.configuration (configurationOf sps pps)) := by
  obtain ⟨hlong, hsps, hpps⟩ := h
  dsimp only at hlong hsps hpps
  obtain ⟨profile, compatibility, level, hprofile, hcompatibility, hlevel, hwritten⟩ :=
    headerBytes_of_le hlong pps.bytes
  have hlength := headerBytes_length hwritten
  have hsize : (5 + 6 + 2 + UInt32.ofNat sps.bytes.length + 3 +
      UInt32.ofNat pps.bytes.length).toNat = 16 + sps.bytes.length + pps.bytes.length := by
    simp only [UInt32.toNat_add, UInt32.toNat_ofNat', UInt32.reduceToNat]
    omega
  refine ⟨⟨5 + 6 + 2 + UInt32.ofNat sps.bytes.length + 3 + UInt32.ofNat pps.bytes.length, _⟩,
    ?_, hlength.trans hsize.symm, List.cons_ne_nil _ _, ?_, ?_⟩
  · simp only [sendCachedAvcSequenceHeader, if_true, buildHeader, hwritten]
  · rw [hlength]
    omega
  · have hconfiguration : configurationOf sps pps =
        ⟨profile, compatibility, level, 4, [sps.bytes], [pps.bytes]⟩ := by
      rw [configurationOf, List.getD_eq_getElem?_getD, hprofile, List.getD_eq_getElem?_getD,
        hcompatibility, List.getD_eq_getElem?_getD, hlevel]
      rfl
    rw [hconfiguration]
    change VideoTag.parse (0x17 :: 0 :: 0 :: 0 :: 0 ::
      Avcc.configuration profile compatibility level sps.bytes pps.bytes) = _
    rw [VideoTag.parse, if_neg (by decide), if_pos rfl,
      Avcc.parseConfiguration_configuration profile compatibility level hsps hpps]
    rfl

/-! ### Frames with long start codes -/

/-- A frame whose units stand behind start codes of four bytes, none of which ends in a zero, and
whose message can say how long it is. -/
structure LongFrame where
  units : List CodedUnit
  ne_nil : units ≠ []
  ends : NoneEndsInZero units
  long : ∀ u ∈ units, u.code = .long
  length_lt : (assemble units).length + 5 < 2 ^ 24

variable {f : LongFrame}

/-- The frame as the encoder delivers it. -/
def LongFrame.toFrame (f : LongFrame) : Frame :=
  ⟨assemble f.units, (Nat.le_add_right _ _).trans_lt (f.length_lt.trans (by decide))⟩

/-- The frame has a unit of the type. -/
def LongFrame.has (f : LongFrame) (nalType : UInt8) : Bool :=
  f.units.any fun u => u.nal.header &&& 0x1F = nalType

/-- What a reader is to see of the frame: an IDR picture makes it a key frame, and the parameter
sets are left out. -/
def LongFrame.tag (f : LongFrame) : VideoTag := .picture (f.has 5) (plainUnits f.units)

theorem behindLong_of_long {units : List CodedUnit} (h : ∀ u ∈ units, u.code = .long)
    (afterZero : Prop) [Decidable afterZero] :
    behindLong afterZero units = units.map (·.nal) := by
  induction units generalizing afterZero with
  | nil => rfl
  | cons u units ih =>
    obtain ⟨hfirst, hrest⟩ := List.forall_mem_cons.mp h
    rw [behindLong, if_pos (.inl hfirst), ih hrest, List.singleton_append, List.map_cons]

theorem LongFrame.isKeyframe_eq (f : LongFrame) : isKeyframe f.toFrame.data = f.has 5 := by
  rw [LongFrame.toFrame, KeyFrameDetectors.rtmp_isKeyframe_assemble, behindLong_of_long f.long,
    List.any_map]
  rfl

theorem LongFrame.length_data (f : LongFrame) : 4 ≤ f.toFrame.data.length :=
  length_assemble_ge f.ne_nil

/-- The search for the types of the units. -/
theorem LongFrame.scan_eq (f : LongFrame) :
    ∃ found first, scanTypes f.toFrame = some found ∧ found.idr = f.has 5 ∧
      (if found.idr then some 0 else checkedFirstType f.toFrame) = some first := by
  obtain ⟨found, hfound, hidr⟩ := scanTypes_of_le f.length_data
  obtain ⟨first, hfirst⟩ := Option.isSome_iff_exists.mp (checkedFirstType_isSome f.toFrame)
  refine ⟨found, if found.idr then 0 else first, hfound, hidr.trans f.isKeyframe_eq, ?_⟩
  split_ifs
  · rfl
  · exact hfirst

/-- Without short codes each unit stands alone. -/
theorem convertedUnits_of_long {units : List CodedUnit} (h : ∀ u ∈ units, u.code = .long) :
    convertedUnits units = plainUnits units := by
  induction units with
  | nil => rfl
  | cons u units ih =>
    obtain ⟨hfirst, hrest⟩ := List.forall_mem_cons.mp h
    have hfront : shortFront units = [] := by
      cases units with
      | nil => rfl
      | cons v units => exact List.takeWhile_cons_of_neg (by simp [hrest v List.mem_cons_self])
    rw [convertedUnits, plainUnits_cons, ih hrest, hfront, assemble_nil, List.append_nil]
    by_cases hparameters : IsParameterSet u.nal
    · rw [if_pos hparameters, if_neg fun hboth => hboth.2 hparameters]
    · rw [if_neg hparameters, if_pos ⟨hfirst, hparameters⟩]

/-- The lengths take the room of the start codes. -/
theorem length_plainUnits_le {units : List CodedUnit} (h : ∀ u ∈ units, u.code = .long) :
    (Avcc.assemble (plainUnits units)).length ≤ (assemble units).length := by
  induction units with
  | nil => exact le_rfl
  | cons u units ih =>
    obtain ⟨hfirst, hrest⟩ := List.forall_mem_cons.mp h
    have hlater := ih hrest
    have hcode : u.code.bytes.length = 4 := by
      rw [hfirst]
      rfl
    rw [plainUnits_cons, assemble_cons, List.length_append, List.length_append, hcode]
    split_ifs
    · omega
    · rw [Avcc.assemble_cons, List.length_append, Avcc.prefixed_length]
      omega

/-- The message of a frame. -/
def LongFrame.message (f : LongFrame) : List UInt8 :=
  ((if f.has 5 then 1 else 2 : UInt8) <<< 4 ||| 7) :: 1 :: 0 :: 0 :: 0 ::
    Avcc.assemble (plainUnits f.units)

theorem LongFrame.checkedConvert_eq (f : LongFrame) :
    checkedConvert f.toFrame [(if f.has 5 then 1 else 2 : UInt8) <<< 4 ||| 7, 1, 0, 0, 0] =
      some (some f.message) := by
  have hrest := congrArg List.length (assemble_shortFront_append f.units)
  rw [List.length_append] at hrest
  generalize htag : (if f.has 5 then 1 else 2 : UInt8) <<< 4 ||| 7 = tag
  have hroom : ([tag, 1, 0, 0, 0] : List UInt8).length + (assemble (longRest f.units)).length ≤
      (assemble f.units).length + 16 := by
    simp only [List.length_cons, List.length_nil]
    omega
  rw [checkedConvert, scan_convertAt, List.drop_zero, LongFrame.toFrame,
    annexBToAvcc_assemble f.ends hroom, convertedUnits_of_long f.long, LongFrame.message, htag]
  rfl

theorem LongFrame.length_message (f : LongFrame) : f.message.length < 2 ^ 24 := by
  have hunits := length_plainUnits_le f.long
  have hlt := f.length_lt
  simp only [LongFrame.message, List.length_cons]
  omega

/-- The message is read as what is to be seen of the frame. -/
theorem LongFrame.parse_message (f : LongFrame) : VideoTag.parse f.message = some f.tag := by
  have hfits : ∀ unit ∈ plainUnits f.units, Avcc.Fits unit := by
    intro unit hunit
    have hle := length_le_of_mem_converted (.inr hunit)
    have hlt := f.length_lt
    unfold Avcc.Fits
    omega
  rw [LongFrame.message, LongFrame.tag]
  cases f.has 5 <;>
    rw [VideoTag.parse, if_neg (by decide), if_neg (by decide), if_pos rfl,
      Avcc.disassemble_assemble hfits] <;> rfl

theorem firstLong_eq_none {nalType : UInt8} {units : List CodedUnit}
    (h : (units.any fun u => u.nal.header &&& 0x1F = nalType) = false) :
    firstLong nalType units = none := by
  induction units with
  | nil => rfl
  | cons u units ih =>
    rw [List.any_cons, Bool.or_eq_false_iff, decide_eq_false_iff_not] at h
    rw [firstLong, if_neg fun hboth => h.1 hboth.2, ih h.2]

/-- Without an SPS or a PPS in the frame there is no header of its own. -/
theorem LongFrame.givesUp (h : f.has 7 = false ∨ f.has 8 = false) (malloc : Bool) :
    sendAvcSequenceHeaderFromFrame f.toFrame malloc = .givesUp 0 0 := by
  rw [sendAvcSequenceHeaderFromFrame_of_le f.length_data, LongFrame.toFrame,
    findNal_assemble 7 f.ends, findNal_assemble 8 f.ends]
  rcases h with hsps | hpps
  · rw [firstLong_eq_none hsps]
    rfl
  · rw [firstLong_eq_none hpps]
    cases firstLong 7 f.units <;> rfl

/-! ### A target that takes everything -/

/-- The target is publishing, and a receiver is in step with the chunks of the writer. -/
structure LiveTarget.Ready (k : LiveTarget) : Prop where
  inStep : k.client.InStep
  publishing : k.client.phase.isPublishing = true
  sizes : k.client.chunkSizeOut.toNat = k.client.announcedChunkSize
  running : k.threadRunning = true
  socket : 0 ≤ k.socketFd

/-- From `k` to `k'` the target is sent the video, and silence. -/
structure LiveTarget.Sends (k k' : LiveTarget) (tags : List (UInt32 × VideoTag)) : Prop where
  ready : k'.Ready
  phase : k'.client.phase = k.client.phase
  wait : k'.avcWaitStartUs = k.avcWaitStartUs
  sent : ∃ messages, k'.client.sent = k.client.sent ++ messages ∧
    videos messages = tags.map (fun tag => (tag.1, some tag.2)) ∧
    ∀ m ∈ messages, m.messageType = 9 ∨ m.messageType = 8 ∧ m.data = silentAacFrame

variable {k k' k'' : LiveTarget} {tags tags' : List (UInt32 × VideoTag)} {timestamp : UInt32}

theorem LiveTarget.Ready.sends_nil (h : k.Ready) : k.Sends k [] :=
  ⟨h, rfl, rfl, [], (List.append_nil _).symm, rfl, fun _ hm => absurd hm List.not_mem_nil⟩

theorem LiveTarget.Sends.trans (h : k.Sends k' tags) (h' : k'.Sends k'' tags') :
    k.Sends k'' (tags ++ tags') := by
  obtain ⟨messages, hsent, hvideos, htypes⟩ := h.sent
  obtain ⟨messages', hsent', hvideos', htypes'⟩ := h'.sent
  refine ⟨h'.ready, h'.phase.trans h.phase, h'.wait.trans h.wait, messages ++ messages', ?_, ?_,
    fun m hm => ?_⟩
  · rw [hsent', hsent, List.append_assoc]
  · rw [videos_append, hvideos, hvideos', List.map_append]
  · rcases List.mem_append.mp hm with hm | hm
    · exact htypes m hm
    · exact htypes' m hm

/-- The marks of the header and of the key frames do not matter. -/
theorem LiveTarget.Sends.mark (h : k.Sends k' tags) (avcHeaderSent : Bool)
    (framesWithoutKeyframe : ℤ) :
    k.Sends { k' with avcHeaderSent, framesWithoutKeyframe } tags :=
  ⟨⟨h.ready.inStep, h.ready.publishing, h.ready.sizes, h.ready.running, h.ready.socket⟩, h.phase,
    h.wait, h.sent⟩

/-- A message that fits is sent. -/
theorem LiveTarget.Ready.sendMessage (h : k.Ready) {chunkStreamId messageType : UInt8}
    {data : List UInt8}
    (hm : (ClientMessage.mk chunkStreamId messageType timestamp k.client.streamId data).Encodable)
    (htype : messageType ≠ 1) :
    ∃ k', k.sendMessage chunkStreamId messageType timestamp data .whole = (k', true) ∧ k'.Ready ∧
      k'.client.phase = k.client.phase ∧ k'.client.sent =
        k.client.sent ++ [⟨chunkStreamId, messageType, timestamp, k.client.streamId, data⟩] ∧
      k'.avcWaitStartUs = k.avcWaitStartUs ∧ k'.avcHeaderSent = k.avcHeaderSent := by
  have hsizes : k.client.chunkSizeOut.toNat = k.client.announcedChunkSize ∨
      data.length ≤ k.client.chunkSizeOut.toNat ∧ data.length ≤ k.client.announcedChunkSize :=
    .inl h.sizes
  obtain ⟨r, -, hchunk, -⟩ := h.inStep.receiver
  have hlow := h.inStep.chunkSizeOut_low
  obtain ⟨bytes, -, hbytes, -⟩ :=
    receiveAll_sendChunkedMessage hm (by omega) (hchunk.symm ▸ hsizes)
  have hbytes' : rtmpClientSendChunkedMessage k.client.chunkSizeOut k.client.streamId chunkStreamId
      messageType timestamp data = some bytes := hbytes
  have hinStep := h.inStep.sendChunkedMessage hm htype hsizes
  have hmade : k.client.sendChunkedMessage chunkStreamId messageType timestamp data =
      { k.client with
        sent := k.client.sent ++ [⟨chunkStreamId, messageType, timestamp, k.client.streamId, data⟩]
        wire := k.client.wire ++ bytes } := by
    rw [Client.sendChunkedMessage, hbytes']
  rw [LiveTarget.sendMessage, hbytes']
  rw [hmade] at hinStep ⊢
  exact ⟨_, rfl, ⟨hinStep, h.publishing, h.sizes, h.running, h.socket⟩, rfl, rfl, rfl, rfl⟩

/-- A video message. -/
theorem LiveTarget.Ready.sendVideo (h : k.Ready) {data : List UInt8} (hne : data ≠ [])
    (hlength : data.length < 2 ^ 24) (htime : timestamp.toNat % 2 ^ 24 ≠ 0xFFFFFF)
    {tag : VideoTag} (hparse : VideoTag.parse data = some tag) :
    ∃ k', k.sendMessage 6 9 timestamp data .whole = (k', true) ∧
      k.Sends k' [(timestamp, tag)] ∧ k'.avcHeaderSent = k.avcHeaderSent := by
  obtain ⟨k', hsend, hready, hphase, hsent, hwait, hheader⟩ :=
    h.sendMessage ⟨show 2 ≤ (6 : UInt8).toNat by decide, show (6 : UInt8).toNat ≤ 63 by decide,
      hne, hlength, htime⟩ (show (9 : UInt8) ≠ 1 by decide)
  refine ⟨k', hsend, ⟨hready, hphase, hwait, _, hsent, ?_, fun m hm => ?_⟩, hheader⟩
  · rw [videos, List.filter_singleton]
    simp [hparse]
  · rw [List.mem_singleton.mp hm]
    exact .inl rfl

/-- Silence is no video. -/
theorem LiveTarget.Ready.sendSilentAudioFrame (h : k.Ready)
    (htime : timestamp.toNat % 2 ^ 24 ≠ 0xFFFFFF) :
    k.Sends (k.sendSilentAudioFrame timestamp .whole) [] ∧
      (k.sendSilentAudioFrame timestamp .whole).avcHeaderSent = k.avcHeaderSent := by
  have hm : (ClientMessage.mk 4 8 timestamp k.client.streamId silentAacFrame).Encodable :=
    ⟨show 2 ≤ (4 : UInt8).toNat by decide, show (4 : UInt8).toNat ≤ 63 by decide,
      List.cons_ne_nil _ _, show silentAacFrame.length < 2 ^ 24 by decide, htime⟩
  obtain ⟨k', hsend, hready, hphase, hsent, hwait, hheader⟩ :=
    h.sendMessage hm (show (8 : UInt8) ≠ 1 by decide)
  have hgoes : ¬(k.client.phase.isPublishing = false ∨ k.socketFd < 0) := by
    rw [h.publishing]
    rintro (hidle | hclosed)
    · cases hidle
    · exact absurd h.socket (not_le.mpr hclosed)
  rw [LiveTarget.sendSilentAudioFrame, if_neg hgoes, hsend]
  refine ⟨⟨hready, hphase, hwait, _, hsent, rfl, fun m hm => ?_⟩, hheader⟩
  rw [List.mem_singleton.mp hm]
  exact .inr ⟨rfl, rfl⟩

/-- A header is sent if there is one. -/
structure FrameCalls.SendsHeader (calls : FrameCalls) : Prop where
  allocated : calls.headerAllocated = true
  taken : calls.header = .whole

/-- All calls succeed. -/
structure FrameCalls.Succeed (calls : FrameCalls) : Prop where
  header : calls.SendsHeader
  allocated : calls.allocated = true
  message : calls.message = .whole
  silence : calls.silence = .whole

variable {params : Option (ParameterSet × ParameterSet)} {calls : FrameCalls}

/-- What the frame manager has kept fits, and it has kept the parameter sets of the frame. -/
structure LongFrame.Kept (f : LongFrame) (params : Option (ParameterSet × ParameterSet)) :
    Prop where
  fits : ∀ sets ∈ params, SetsFit sets
  own : params = none → f.has 7 = false ∨ f.has 8 = false

/-- The configuration that is sent before the first frame. -/
def headerTags (headerSent : Bool) (params : Option (ParameterSet × ParameterSet)) :
    List (UInt32 × VideoTag) :=
  if headerSent then []
  else params.toList.map fun sets => (0, .configuration (configurationOf sets.1 sets.2))

/-- The header of the kept parameter sets is sent. -/
theorem LiveTarget.Ready.sendHeader (h : k.Ready) {sps pps : ParameterSet}
    (hfits : SetsFit (sps, pps)) :
    ∃ k', k.sendHeader .whole (sendCachedAvcSequenceHeader (some sps) (some pps) true) =
        some (k', true) ∧
      k.Sends k' [(0, .configuration (configurationOf sps pps))] := by
  obtain ⟨header, hbuilt, hsize, hne, hlength, hparse⟩ := hfits.built
  obtain ⟨k', hsend, hsends, -⟩ :=
    h.sendVideo hne hlength (show (0 : UInt32).toNat % 2 ^ 24 ≠ 0xFFFFFF by decide) hparse
  rw [hbuilt, LiveTarget.sendHeader, if_pos hsize, hsend]
  exact ⟨k', rfl, hsends⟩

/-- The frame is sent. -/
def LiveTarget.goesOn (k : LiveTarget) (params : Option (ParameterSet × ParameterSet))
    (calls : FrameCalls) : Bool :=
  k.avcHeaderSent || params.isSome || k.waitIsOver calls

/-- What is done before the message of a key frame. -/
theorem LiveTarget.Ready.prepareKeyframe (h : k.Ready) (hcalls : calls.SendsHeader)
    (hkept : f.Kept params) :
    ∃ k', k.prepareKeyframe f.toFrame params calls = some (k', k.goesOn params calls) ∧
      k.Sends k' (headerTags k.avcHeaderSent params) ∧
      k'.avcHeaderSent = k.goesOn params calls := by
  have hmarked := fun headerSent => h.sends_nil.mark headerSent 0
  unfold LiveTarget.prepareKeyframe LiveTarget.goesOn headerTags
  dsimp only
  cases hheader : k.avcHeaderSent with
  | true =>
    rw [if_pos rfl, if_pos rfl]
    exact ⟨_, rfl, hmarked true, rfl⟩
  | false =>
    rw [if_neg Bool.false_ne_true, if_neg Bool.false_ne_true]
    cases params with
    | none =>
      dsimp only
      rw [LongFrame.givesUp (hkept.own rfl), LiveTarget.sendHeader, if_pos (Nat.zero_le _)]
      exact ⟨_, rfl, (hmarked false).mark _ _, rfl⟩
    | some sets =>
      obtain ⟨k', hsend, hsends⟩ := (hmarked false).ready.sendHeader (hkept.fits sets rfl)
      dsimp only
      rw [hcalls.taken, hcalls.allocated, hsend]
      exact ⟨_, rfl, ((hmarked false).trans hsends).mark true _, rfl⟩

/-- What is done before the message of another frame. -/
theorem LiveTarget.Ready.prepareOther (h : k.Ready) (hcalls : calls.SendsHeader)
    (hkept : f.Kept params) :
    ∃ k', k.prepareOther params calls = some (k', k.goesOn params calls) ∧
      k.Sends k' (headerTags k.avcHeaderSent params) ∧
      k'.avcHeaderSent = k.goesOn params calls := by
  have hmarked := fun headerSent => h.sends_nil.mark headerSent (k.framesWithoutKeyframe + 1)
  unfold LiveTarget.prepareOther LiveTarget.goesOn headerTags
  dsimp only
  cases hheader : k.avcHeaderSent with
  | true =>
    rw [if_pos rfl, if_pos rfl]
    exact ⟨_, rfl, hmarked true, rfl⟩
  | false =>
    rw [if_neg Bool.false_ne_true, if_neg Bool.false_ne_true]
    cases params with
    | none => exact ⟨_, rfl, (hmarked false).mark _ _, rfl⟩
    | some sets =>
      obtain ⟨k', hsend, hsends⟩ := (hmarked false).ready.sendHeader (hkept.fits sets rfl)
      dsimp only
      rw [hcalls.taken, hcalls.allocated, hsend]
      exact ⟨_, rfl, ((hmarked false).trans hsends).mark true _, rfl⟩

/-- The message of the frame, with or without silence behind it. -/
theorem LiveTarget.Ready.sendFrameMessage (h : k.Ready) (hmessage : calls.message = .whole)
    (hsilence : calls.silence = .whole) (htime : timestamp.toNat % 2 ^ 24 ≠ 0xFFFFFF)
    (lastAudioTimestamp : UInt32) :
    ∃ k' last, k.sendFrameMessage lastAudioTimestamp (f.has 5) f.toFrame timestamp calls =
        some ((k', last), 0) ∧
      k.Sends k' [(timestamp, f.tag)] ∧ k'.avcHeaderSent = k.avcHeaderSent := by
  obtain ⟨k', hsend, hsends, hheader⟩ :=
    h.sendVideo (List.cons_ne_nil _ _) f.length_message htime f.parse_message
  have hsend' : k.sendMessage 6 9 timestamp f.message .whole = (k', true) := hsend
  unfold LiveTarget.sendFrameMessage
  dsimp only
  rw [f.checkedConvert_eq, Option.map_some, hmessage]
  dsimp only
  rw [hsend', if_pos rfl, hsilence]
  split_ifs
  · obtain ⟨hquiet, hsame⟩ := hsends.ready.sendSilentAudioFrame htime
    exact ⟨_, _, rfl, hsends.trans hquiet, hsame.trans hheader⟩
  · exact ⟨_, _, rfl, hsends, hheader⟩

/-- The message that breaks ends the session. -/
theorem LiveTarget.sendFrameMessage_broken (k : LiveTarget) {taken : List UInt8}
    (hmessage : calls.message = .broken taken) (lastAudioTimestamp timestamp : UInt32) :
    k.sendFrameMessage lastAudioTimestamp (f.has 5) f.toFrame timestamp calls =
      some (({ k with client := { k.client with
        phase := .disconnected, wire := k.client.wire ++ taken } }, lastAudioTimestamp), -1) := by
  unfold LiveTarget.sendFrameMessage
  dsimp only
  rw [f.checkedConvert_eq, Option.map_some, hmessage]
  rfl

/-- A frame for a publishing target: the header if it is due, and then the message. -/
theorem LiveTarget.Ready.sendVideoFrame_eq (h : k.Ready) (hallocated : calls.allocated = true)
    (hheader : calls.SendsHeader) (hkept : f.Kept params)
    (lastAudioTimestamp timestamp : UInt32) :
    ∃ k₁, k.Sends k₁ (headerTags k.avcHeaderSent params) ∧
      k₁.avcHeaderSent = k.goesOn params calls ∧
      k.sendVideoFrame lastAudioTimestamp f.toFrame timestamp params calls =
        if k.goesOn params calls then
          k₁.sendFrameMessage lastAudioTimestamp (f.has 5) f.toFrame timestamp calls
        else some ((k₁, lastAudioTimestamp), 0) := by
  have hne : f.toFrame.data ≠ [] := List.ne_nil_of_length_pos (by have := f.length_data; omega)
  obtain ⟨found, first, hfound, hidr, hfirst⟩ := f.scan_eq
  obtain ⟨k₁, hprepare, hsends, hmark⟩ : ∃ k₁,
      (if found.idr then k.prepareKeyframe f.toFrame params calls
        else k.prepareOther params calls) = some (k₁, k.goesOn params calls) ∧
      k.Sends k₁ (headerTags k.avcHeaderSent params) ∧
      k₁.avcHeaderSent = k.goesOn params calls := by
    split
    · exact h.prepareKeyframe hheader hkept
    · exact h.prepareOther hheader hkept
  unfold LiveTarget.sendVideoFrame
  rw [if_neg hne, if_neg (by simp [h.publishing]), if_neg (not_lt.mpr h.socket),
    if_neg (by simp [hallocated]), hfound, Option.bind_some, hfirst, Option.bind_some,
    hprepare, Option.bind_some, hidr]
  exact ⟨k₁, hsends, hmark, rfl⟩

/-- What the target is sent for the frame. -/
def LiveTarget.tagsFor (k : LiveTarget) (f : LongFrame) (timestamp : UInt32)
    (params : Option (ParameterSet × ParameterSet)) (calls : FrameCalls) :
    List (UInt32 × VideoTag) :=
  headerTags k.avcHeaderSent params ++
    if k.goesOn params calls then [(timestamp, f.tag)] else []

/-- A frame for a target that takes everything. -/
theorem LiveTarget.Ready.sendVideoFrame (h : k.Ready) (hcalls : calls.Succeed)
    (hkept : f.Kept params) (htime : timestamp.toNat % 2 ^ 24 ≠ 0xFFFFFF)
    (lastAudioTimestamp : UInt32) :
    ∃ k' last, k.sendVideoFrame lastAudioTimestamp f.toFrame timestamp params calls =
        some ((k', last), 0) ∧
      k.Sends k' (k.tagsFor f timestamp params calls) ∧
      k'.avcHeaderSent = k.goesOn params calls := by
  obtain ⟨k₁, hsends, hmark, hsent⟩ := h.sendVideoFrame_eq hcalls.allocated hcalls.header hkept
    lastAudioTimestamp timestamp
  rw [hsent, LiveTarget.tagsFor]
  split_ifs
  · obtain ⟨k₂, last, hmessage, hsends', hmark'⟩ :=
      hsends.ready.sendFrameMessage (f := f) hcalls.message hcalls.silence htime lastAudioTimestamp
    exact ⟨k₂, last, hmessage, hsends.trans hsends', hmark'.trans hmark⟩
  · rw [List.append_nil]
    exact ⟨k₁, lastAudioTimestamp, rfl, hsends, hmark⟩

/-! ### Any target -/

/-- No header of the kept parameter sets is read or written outside. -/
theorem LiveTarget.sendHeader_isSome (k : LiveTarget) {sps pps : ParameterSet}
    (hfits : SetsFit (sps, pps)) (writing : Writing) (malloc : Bool) :
    (k.sendHeader writing (sendCachedAvcSequenceHeader (some sps) (some pps) malloc)).isSome := by
  cases malloc with
  | false => rfl
  | true =>
    obtain ⟨header, hbuilt, hsize, -⟩ := hfits.built
    rw [hbuilt, LiveTarget.sendHeader, if_pos hsize]
    rfl

theorem LiveTarget.prepare_isSome (k : LiveTarget) (hkept : f.Kept params) (isKeyframe : Bool)
    (calls : FrameCalls) :
    (if isKeyframe then k.prepareKeyframe f.toFrame params calls
      else k.prepareOther params calls).isSome := by
  unfold LiveTarget.prepareKeyframe LiveTarget.prepareOther
  dsimp only
  cases params with
  | none =>
    rw [LongFrame.givesUp (hkept.own rfl), LiveTarget.sendHeader, if_pos (Nat.zero_le _)]
    split_ifs <;> rfl
  | some sets =>
    have hsend := fun k : LiveTarget =>
      k.sendHeader_isSome (hkept.fits sets rfl) calls.header calls.headerAllocated
    split_ifs
    · rfl
    · rw [Option.isSome_map]
      exact hsend _
    · rfl
    · rw [Option.isSome_map]
      exact hsend _

/-- Whatever has become of a target, the frame is not read outside. -/
theorem LiveTarget.sendVideoFrame_isSome (k : LiveTarget) (hkept : f.Kept params)
    (lastAudioTimestamp timestamp : UInt32) (calls : FrameCalls) :
    (k.sendVideoFrame lastAudioTimestamp f.toFrame timestamp params calls).isSome := by
  obtain ⟨found, first, hfound, hidr, hfirst⟩ := f.scan_eq
  obtain ⟨⟨k', goesOn⟩, hprepare⟩ :=
    Option.isSome_iff_exists.mp (k.prepare_isSome hkept found.idr calls)
  unfold LiveTarget.sendVideoFrame
  split_ifs
  iterate 4 rfl
  rw [hfound, Option.bind_some, hfirst, Option.bind_some, hprepare, Option.bind_some]
  cases goesOn with
  | false => rfl
  | true =>
    dsimp only
    rw [if_pos rfl, LiveTarget.sendFrameMessage, hidr]
    dsimp only
    rw [f.checkedConvert_eq]
    rfl

end RtmpClient
