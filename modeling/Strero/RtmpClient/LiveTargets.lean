import Mathlib.Data.List.Count
import Strero.RtmpClient.FrameDelivery

/-!
# Frames for all targets

A frame of the encoder is offered to the connections one after another, in the order of their list.
A connection that breaks does not keep the frame from those behind it. The static variables of the
sender are there once for all connections, though, and so is the silence.
-/

namespace RtmpClient

open AnnexB Runs Wire
open FrameManager (Frame)

/-! ### The connections -/

/-- `rtmp_client_connection_create`. -/
def LiveTarget.create (config : ClientConfig) (target : Target) : LiveTarget where
  client := Client.create config target
  threadRunning := false
  socketFd := -1
  avcHeaderSent := false
  avcWaitStartUs := 0
  framesWithoutKeyframe := 0

/-- The connection is sent frames. -/
def LiveTarget.active (k : LiveTarget) : Bool := k.client.phase.isPublishing && k.threadRunning

/-- A step of `rtmp_client_connection_thread`, which sends no media. The thread opens the socket
with the connection, starts the wait when it publishes, and closes the socket. -/
def LiveTarget.own (k : LiveTarget) (socketFd : ℤ) (now : UInt32) : Event → LiveTarget
  | .establish =>
    if k.client.phase = .disconnected then
      { k with client := k.client.step .establish, socketFd }
    else k
  | .publish =>
    if k.client.phase = .streamCreated then
      { k with client := k.client.step .publish, avcWaitStartUs := now }
    else k
  | .disconnect => { k with client := k.client.step .disconnect, socketFd := -1 }
  | .video _ _ | .audio _ _ => k
  | e => { k with client := k.client.step e }

variable {ι : Type*} [DecidableEq ι]

/-- The connections, the flag of the consumer, and the static variable of the sender. -/
structure Distribution (ι : Type*) where
  enabled : Bool
  targets : ι → LiveTarget
  lastAudioTimestamp : UInt32

/-- The client has made its connections, and the consumer has been initialized. -/
def Distribution.start (config : ClientConfig) (targets : ι → Target) : Distribution ι :=
  ⟨true, fun i => LiveTarget.create config (targets i), 0⟩

/-- `rtmp_client_get_active_connection_count`, for the connections in the order of the list. -/
def Distribution.activeConnectionCount (s : Distribution ι) (order : List ι) : ℕ :=
  order.countP fun i => (s.targets i).active

/-- The frame is offered to a connection. -/
def Distribution.offer (frame : Frame) (timestamp : UInt32)
    (params : Option (ParameterSet × ParameterSet)) (calls : ι → FrameCalls) (s : Distribution ι)
    (i : ι) : Option (Distribution ι) :=
  if (s.targets i).active then
    ((s.targets i).sendVideoFrame s.lastAudioTimestamp frame timestamp params (calls i)).map
      fun sent =>
        { s with
          targets := Function.update s.targets i sent.1.1
          lastAudioTimestamp := sent.1.2 }
  else some s

/-- `rtmp_client_send_frame`. -/
def Distribution.rtmpClientSendFrame (order : List ι) (s : Distribution ι) (frame : Frame)
    (timestamp : UInt32) (params : Option (ParameterSet × ParameterSet)) (calls : ι → FrameCalls) :
    Option (Distribution ι) :=
  if frame.data = [] then some s
  else order.foldlM (Distribution.offer frame timestamp params calls) s

/-- The time of a frame in milliseconds. -/
def rtmpTimestamp (timestampUs : UInt64) : UInt32 :=
  (timestampUs / 1000000).toUInt32 * 1000 + (timestampUs % 1000000 / 1000).toUInt32

/-- `rtmp_frame_callback`. -/
def Distribution.rtmpFrameCallback (order : List ι) (s : Distribution ι) (frame : Frame)
    (timestampUs : UInt64) (params : Option (ParameterSet × ParameterSet))
    (calls : ι → FrameCalls) : Option (Distribution ι) :=
  if s.enabled = false then some s
  else if s.activeConnectionCount order = 0 then some s
  else s.rtmpClientSendFrame order frame (rtmpTimestamp timestampUs) params calls

/-- What happens: the consumer is switched on or off, a connection's thread takes a step, is
started or is to stop, and a frame comes. -/
inductive DistributionEvent (ι : Type*)
  | setEnabled (enabled : Bool)
  | own (i : ι) (socketFd : ℤ) (now : UInt32) (e : Event)
  | setRunning (i : ι) (running : Bool)
  | frame (frame : Frame) (timestampUs : UInt64) (params : Option (ParameterSet × ParameterSet))
    (calls : ι → FrameCalls)

/-- One event. -/
def Distribution.step (order : List ι) (s : Distribution ι) :
    DistributionEvent ι → Option (Distribution ι)
  | .setEnabled enabled => some { s with enabled }
  | .own i socketFd now e =>
    some { s with targets := Function.update s.targets i ((s.targets i).own socketFd now e) }
  | .setRunning i running =>
    some { s with
      targets := Function.update s.targets i { s.targets i with threadRunning := running } }
  | .frame frame timestampUs params calls =>
    s.rtmpFrameCallback order frame timestampUs params calls

/-! ### The pass over the list -/

variable {s s' : Distribution ι} {i j : ι} {order : List ι} {f : LongFrame}
  {frame : Frame} {timestamp : UInt32} {params : Option (ParameterSet × ParameterSet)}
  {calls : ι → FrameCalls}

/-- What an offer does. -/
theorem offer_cases (h : s.offer frame timestamp params calls j = some s') :
    (s.targets j).active = true ∧ (∃ sent,
      (s.targets j).sendVideoFrame s.lastAudioTimestamp frame timestamp params (calls j) =
        some sent ∧
      s' = { s with
        targets := Function.update s.targets j sent.1.1
        lastAudioTimestamp := sent.1.2 }) ∨
    (s.targets j).active = false ∧ s' = s := by
  unfold Distribution.offer at h
  split_ifs at h with hactive
  · obtain ⟨sent, hsent, hafter⟩ := Option.map_eq_some_iff.mp h
    exact .inl ⟨hactive, sent, hsent, hafter.symm⟩
  · exact .inr ⟨by simpa using hactive, (Option.some.inj h).symm⟩

/-- An offer changes one connection. -/
theorem offer_other (h : s.offer frame timestamp params calls j = some s') (hne : i ≠ j) :
    s'.targets i = s.targets i := by
  obtain ⟨-, sent, -, rfl⟩ | ⟨-, rfl⟩ := offer_cases h
  · exact Function.update_of_ne hne _ _
  · rfl

theorem offer_enabled (h : s.offer frame timestamp params calls j = some s') :
    s'.enabled = s.enabled := by
  obtain ⟨-, sent, -, rfl⟩ | ⟨-, rfl⟩ := offer_cases h <;> rfl

/-- The offers to others leave the connection alone. -/
theorem foldlM_offer_other (hi : i ∉ order)
    (h : order.foldlM (Distribution.offer frame timestamp params calls) s = some s') :
    s'.targets i = s.targets i := by
  induction order generalizing s with
  | nil => rw [← Option.some.inj h]
  | cons j order ih =>
    obtain ⟨hne, hrest⟩ := List.ne_and_not_mem_of_not_mem_cons hi
    rw [List.foldlM_cons] at h
    obtain ⟨s₁, hfirst, hlater⟩ := Option.bind_eq_some_iff.mp h
    rw [ih hrest hlater, offer_other hfirst hne]

/-- The frame is read for every connection. -/
theorem foldlM_offer_isSome (s : Distribution ι) (order : List ι) (hkept : f.Kept params)
    (timestamp : UInt32) (calls : ι → FrameCalls) :
    ∃ s', order.foldlM (Distribution.offer f.toFrame timestamp params calls) s = some s' := by
  induction order generalizing s with
  | nil => exact ⟨s, rfl⟩
  | cons j order ih =>
    obtain ⟨s₁, hfirst⟩ : ∃ s₁, s.offer f.toFrame timestamp params calls j = some s₁ := by
      unfold Distribution.offer
      split_ifs
      · obtain ⟨sent, hsent⟩ := Option.isSome_iff_exists.mp
          ((s.targets j).sendVideoFrame_isSome hkept s.lastAudioTimestamp timestamp (calls j))
        rw [hsent]
        exact ⟨_, rfl⟩
      · exact ⟨s, rfl⟩
    obtain ⟨s', hlater⟩ := ih s₁
    rw [List.foldlM_cons, hfirst]
    exact ⟨s', hlater⟩

theorem foldlM_offer_enabled
    (h : order.foldlM (Distribution.offer frame timestamp params calls) s = some s') :
    s'.enabled = s.enabled := by
  induction order generalizing s with
  | nil => rw [← Option.some.inj h]
  | cons j order ih =>
    rw [List.foldlM_cons] at h
    obtain ⟨s₁, hfirst, hlater⟩ := Option.bind_eq_some_iff.mp h
    rw [ih hlater, offer_enabled hfirst]

/-- A connection of the list gets the frame once, if it is active. -/
theorem foldlM_offer_target (hi : i ∈ order) (hnodup : order.Nodup)
    (h : order.foldlM (Distribution.offer frame timestamp params calls) s = some s') :
    if (s.targets i).active then
      ∃ last sent, (s.targets i).sendVideoFrame last frame timestamp params (calls i) = some sent ∧
        s'.targets i = sent.1.1
    else s'.targets i = s.targets i := by
  obtain ⟨front, rest, rfl⟩ := List.append_of_mem hi
  obtain ⟨-, hback, hfront⟩ := List.nodup_append.mp hnodup
  have hfront : i ∉ front := fun hmem => hfront i hmem i List.mem_cons_self rfl
  have hrest : i ∉ rest := (List.nodup_cons.mp hback).1
  rw [List.foldlM_append] at h
  obtain ⟨s₁, hbefore, hrun⟩ := Option.bind_eq_some_iff.mp h
  rw [List.foldlM_cons] at hrun
  obtain ⟨s₂, hoffer, hafter⟩ := Option.bind_eq_some_iff.mp hrun
  have hsame := foldlM_offer_other hfront hbefore
  rw [foldlM_offer_other hrest hafter, ← hsame]
  obtain ⟨hactive, sent, hsent, rfl⟩ | ⟨hidle, rfl⟩ := offer_cases hoffer
  · rw [if_pos hactive]
    exact ⟨_, sent, hsent, Function.update_self _ _ _⟩
  · rw [if_neg (by simp [hidle])]

/-- A frame for the callback: either nothing happens, or the list is passed over. -/
theorem rtmpFrameCallback_cases {timestampUs : UInt64}
    (h : s.rtmpFrameCallback order frame timestampUs params calls = some s') :
    s' = s ∨ s.enabled = true ∧
      order.foldlM (Distribution.offer frame (rtmpTimestamp timestampUs) params calls) s =
        some s' := by
  unfold Distribution.rtmpFrameCallback Distribution.rtmpClientSendFrame at h
  split_ifs at h with henabled hcount hempty
  · exact .inl (Option.some.inj h).symm
  · exact .inl (Option.some.inj h).symm
  · exact .inl (Option.some.inj h).symm
  · exact .inr ⟨by simpa using henabled, h⟩

/-! ### The sessions of a connection -/

/-- The sizes of the chunks, and a receiver that is in step while there is a session. -/
structure Client.InOrder (c : Client) : Prop where
  low : 128 ≤ c.chunkSizeOut.toNat
  inStep : c.phase ≠ .disconnected → c.InStep
  announced : c.phase = .announced → c.announcedChunkSize = c.config.chunkSize.toNat
  adopted : c.phase = .adopted ∨ c.phase = .publishing →
    c.chunkSizeOut.toNat = c.announcedChunkSize

theorem Client.create_inOrder (config : ClientConfig) (target : Target) :
    (Client.create config target).InOrder where
  low := show 128 ≤ defaultChunkSize.toNat by decide
  inStep := fun h => absurd rfl h
  announced := fun h => nomatch h
  adopted := fun h => nomatch h

/-- Sending a message leaves the phase and the configuration. -/
theorem Client.sendChunkedMessage_phase (c : Client) (chunkStreamId messageType : UInt8)
    (timestamp : UInt32) (data : List UInt8) :
    (c.sendChunkedMessage chunkStreamId messageType timestamp data).phase = c.phase ∧
      (c.sendChunkedMessage chunkStreamId messageType timestamp data).config = c.config := by
  unfold Client.sendChunkedMessage
  split <;> exact ⟨rfl, rfl⟩

/-- A step in which the phase and the sizes stay. -/
theorem Client.InOrder.congr {c d : Client} (h : c.InOrder) (hphase : d.phase = c.phase)
    (hconfig : d.config = c.config) (hout : d.chunkSizeOut = c.chunkSizeOut)
    (hannounced : d.announcedChunkSize = c.announcedChunkSize) (hinStep : c.InStep → d.InStep) :
    d.InOrder where
  low := hout ▸ h.low
  inStep := fun hd => hinStep (h.inStep (hphase ▸ hd))
  announced := by
    rw [hphase, hconfig, hannounced]
    exact h.announced
  adopted := by
    rw [hphase, hout, hannounced]
    exact h.adopted

/-- The phases up to `PUBLISHING`, in which the sizes need not agree. -/
def Phase.isEarly : Phase → Bool
  | disconnected | handshakeDone | connected | streamCreated | published => true
  | announced | adopted | publishing => false

/-- A step to an early phase. -/
theorem Client.InOrder.of_isEarly {c d : Client} (h : c.InOrder)
    (hout : d.chunkSizeOut = c.chunkSizeOut) (hearly : d.phase.isEarly = true)
    (hinStep : d.phase ≠ .disconnected → d.InStep) : d.InOrder where
  low := hout ▸ h.low
  inStep := hinStep
  announced := fun hd => by
    rw [hd] at hearly
    cases hearly
  adopted := fun hd => by
    rcases hd with hd | hd
    · rw [hd] at hearly
      cases hearly
    · rw [hd] at hearly
      cases hearly

theorem Client.InOrder.establish {c : Client} (h : c.InOrder) : c.establish.InOrder := by
  unfold Client.establish
  split_ifs
  · have hhigh : 128 ≤ 65536 := by decide
    exact h.of_isEarly rfl rfl fun _ => ⟨le_rfl, hhigh, h.low, _, rfl, rfl, fun _ => rfl⟩
  · exact h

/-- A command: it is sent, or the connection is closed. -/
theorem Client.InOrder.command {c : Client} (h : c.InOrder) (command : Option (List UInt8))
    (next : List UInt8 → Client) (hout : ∀ payload, (next payload).chunkSizeOut = c.chunkSizeOut)
    (hearly : ∀ payload, (next payload).phase.isEarly = true)
    (hinStep : ∀ payload ∈ command, (next payload).InStep) :
    (match command with
      | some payload => next payload
      | none => { c with phase := .disconnected }).InOrder := by
  cases command with
  | some payload => exact h.of_isEarly (hout payload) (hearly payload) fun _ => hinStep payload rfl
  | none => exact h.of_isEarly rfl rfl fun hd => absurd rfl hd

theorem Client.InOrder.connect {c : Client} (h : c.InOrder) (hfits : c.Fits .connect) :
    c.connect.InOrder := by
  by_cases hphase : c.phase = .handshakeDone
  · have hinStep := (h.inStep (hphase.trans_ne Phase.noConfusion)).connect hfits
    unfold Client.connect at hinStep ⊢
    rw [if_pos hphase] at hinStep ⊢
    refine h.command _ _ (fun _ => rfl) (fun _ => rfl) fun payload hpayload => ?_
    rw [Option.mem_def.mp hpayload] at hinStep
    exact hinStep
  · rw [Client.connect, if_neg hphase]
    exact h

theorem Client.InOrder.createStream {c : Client} (h : c.InOrder) (streamId : UInt32) :
    (c.createStream streamId).InOrder := by
  by_cases hphase : c.phase = .connected
  · have hinStep := (h.inStep (hphase.trans_ne Phase.noConfusion)).createStream streamId
    unfold Client.createStream at hinStep ⊢
    rw [if_pos hphase] at hinStep ⊢
    refine h.command createStreamCommand (fun payload => { c.writeChunk ⟨3, 20, 0, 0, payload⟩ with
      phase := .streamCreated, streamId }) (fun _ => rfl) (fun _ => rfl) fun payload hpayload => ?_
    rw [Option.mem_def.mp hpayload] at hinStep
    exact hinStep
  · rw [Client.createStream, if_neg hphase]
    exact h

theorem Client.InOrder.publish {c : Client} (h : c.InOrder) (hfits : c.Fits .publish) :
    c.publish.InOrder := by
  by_cases hphase : c.phase = .streamCreated
  · have hinStep := (h.inStep (hphase.trans_ne Phase.noConfusion)).publish hfits
    unfold Client.publish at hinStep ⊢
    rw [if_pos hphase] at hinStep ⊢
    refine h.command _ _ (fun _ => rfl) (fun _ => rfl) fun payload hpayload => ?_
    rw [Option.mem_def.mp hpayload] at hinStep
    exact hinStep
  · rw [Client.publish, if_neg hphase]
    exact h

/-- The size is announced, and then taken over. -/
theorem Client.InOrder.announce {c : Client} (h : c.InOrder) : c.announce.InOrder := by
  by_cases hphase : c.phase = .published
  · have hinStep := (h.inStep (hphase.trans_ne Phase.noConfusion)).announce
    unfold Client.announce at hinStep ⊢
    rw [if_pos hphase] at hinStep ⊢
    obtain ⟨-, hconfig⟩ := c.sendChunkedMessage_phase 2 1 0 (putBe32 c.config.chunkSize)
    obtain ⟨hout, -⟩ := c.sendChunkedMessage_frame 2 1 0 (putBe32 c.config.chunkSize)
    exact ⟨hout ▸ h.low, fun _ => hinStep,
      fun _ => congrArg (·.chunkSize.toNat) hconfig.symm,
      fun hd => hd.elim Phase.noConfusion Phase.noConfusion⟩
  · rw [Client.announce, if_neg hphase]
    exact h

theorem Client.InOrder.adoptChunkSize {c : Client} (h : c.InOrder) :
    c.adoptChunkSize.InOrder := by
  by_cases hphase : c.phase = .announced
  · have hinStep := (h.inStep (hphase.trans_ne Phase.noConfusion)).adoptChunkSize
    unfold Client.adoptChunkSize at hinStep ⊢
    rw [if_pos hphase] at hinStep ⊢
    exact ⟨c.config.chunkSize_low, fun _ => hinStep, fun hd => Phase.noConfusion hd,
      fun _ => (h.announced hphase).symm⟩
  · rw [Client.adoptChunkSize, if_neg hphase]
    exact h

theorem Client.InOrder.audioConfig {c : Client} (h : c.InOrder) : c.audioConfig.InOrder := by
  by_cases hphase : c.phase = .adopted
  · have hinStep := (h.inStep (hphase.trans_ne Phase.noConfusion)).audioConfig
    unfold Client.audioConfig at hinStep ⊢
    rw [if_pos hphase] at hinStep ⊢
    obtain ⟨hout, hannounced⟩ := c.sendChunkedMessage_frame 4 8 0 [0xAF, 0x00, 0x12, 0x10]
    exact ⟨hout ▸ h.low, fun _ => hinStep, fun hd => Phase.noConfusion hd,
      fun _ => (congrArg _ hout).trans ((h.adopted (.inl hphase)).trans hannounced.symm)⟩
  · rw [Client.audioConfig, if_neg hphase]
    exact h

/-- Other messages leave the phase and the sizes. -/
theorem Client.InOrder.sendChunkedMessage {c : Client} (h : c.InOrder)
    (chunkStreamId messageType : UInt8) (timestamp : UInt32) (data : List UInt8)
    (hinStep : c.InStep → (c.sendChunkedMessage chunkStreamId messageType timestamp data).InStep) :
    (c.sendChunkedMessage chunkStreamId messageType timestamp data).InOrder := by
  obtain ⟨hphase, hconfig⟩ := c.sendChunkedMessage_phase chunkStreamId messageType timestamp data
  obtain ⟨hout, hannounced⟩ :=
    c.sendChunkedMessage_frame chunkStreamId messageType timestamp data
  exact h.congr hphase hconfig hout hannounced hinStep

theorem Client.InOrder.media {c : Client} (h : c.InOrder) (chunkStreamId messageType : UInt8)
    (timestamp : UInt32) (data : List UInt8)
    (hinStep : c.InStep → (c.media chunkStreamId messageType timestamp data).InStep) :
    (c.media chunkStreamId messageType timestamp data).InOrder := by
  unfold Client.media at hinStep ⊢
  split_ifs at hinStep ⊢
  · exact h.sendChunkedMessage chunkStreamId messageType timestamp data hinStep
  · exact h

theorem Client.InOrder.acknowledge {c : Client} (h : c.InOrder) (bytesReceived : UInt32) :
    (c.acknowledge bytesReceived).InOrder := by
  have hinStep : c.InStep → (c.acknowledge bytesReceived).InStep := fun hc =>
    hc.acknowledge bytesReceived
  unfold Client.acknowledge at hinStep ⊢
  split_ifs at hinStep ⊢
  · exact h.sendChunkedMessage 2 3 0 (putBe32 bytesReceived) hinStep
  · exact h

theorem Client.InOrder.disconnect {c : Client} (h : c.InOrder) : c.disconnect.InOrder :=
  h.of_isEarly rfl rfl fun hd => absurd rfl hd

/-- Every step that fits keeps the order. -/
theorem Client.InOrder.step {c : Client} (h : c.InOrder) {e : Event} (hfits : c.Fits e) :
    (c.step e).InOrder := by
  cases e with
  | establish => exact h.establish
  | connect => exact h.connect hfits
  | createStream streamId => exact h.createStream streamId
  | publish => exact h.publish hfits
  | announce => exact h.announce
  | adoptChunkSize => exact h.adoptChunkSize
  | audioConfig => exact h.audioConfig
  | video timestamp data => exact h.media 6 9 timestamp data fun hc => hc.step hfits
  | audio timestamp data => exact h.media 4 8 timestamp data fun hc => hc.step hfits
  | acknowledge bytesReceived => exact h.acknowledge bytesReceived
  | disconnect => exact h.disconnect

/-- A publishing target whose sizes agree is in order. -/
theorem LiveTarget.Ready.inOrder {k : LiveTarget} (h : k.Ready)
    (hphase : k.client.phase = .adopted ∨ k.client.phase = .publishing) : k.client.InOrder where
  low := h.inStep.chunkSizeOut_low
  inStep := fun _ => h.inStep
  announced := fun hd => by
    rw [hd] at hphase
    exact hphase.elim Phase.noConfusion Phase.noConfusion
  adopted := fun _ => h.sizes

theorem LiveTarget.own_client (k : LiveTarget) (socketFd : ℤ) (now : UInt32) (e : Event) :
    (k.own socketFd now e).client = k.client ∨
      (k.own socketFd now e).client = k.client.step e := by
  unfold LiveTarget.own
  split
  · split_ifs
    · exact .inr rfl
    · exact .inl rfl
  · split_ifs
    · exact .inr rfl
    · exact .inl rfl
  · exact .inr rfl
  · exact .inl rfl
  · exact .inl rfl
  · exact .inr rfl

/-! ### What may happen -/

/-- The frame has units, the frame manager has kept its parameter sets, and its time is not the one
that announces an extended timestamp. -/
structure Sendable (content : Frame → LongFrame) (frame : Frame) (timestampUs : UInt64)
    (params : Option (ParameterSet × ParameterSet)) : Prop where
  units : (content frame).toFrame = frame
  kept : (content frame).Kept params
  time : (rtmpTimestamp timestampUs).toNat % 2 ^ 24 ≠ 0xFFFFFF

/-- The commands of the connection's thread fit, and a frame comes to the connection only when the
size of its chunks is settled. The network may refuse the message of the frame, but takes the
rest. -/
def Distribution.Permits (i : ι) (content : Frame → LongFrame) (s : Distribution ι) :
    DistributionEvent ι → Prop
  | .own j _ _ e => j = i → (s.targets i).client.Fits e
  | .frame frame timestampUs params calls =>
    s.enabled = true → (s.targets i).active = true → Sendable content frame timestampUs params ∧
      ((s.targets i).client.phase = .adopted ∨ (s.targets i).client.phase = .publishing) ∧
      (calls i).SendsHeader ∧ (calls i).silence = .whole
  | .setEnabled _ | .setRunning _ _ => True

variable {content : Frame → LongFrame} {k : LiveTarget} {calls : FrameCalls}

/-- After a frame the target is in order, whether or not the network has taken the message. -/
theorem LiveTarget.inOrder_sendVideoFrame (h : k.client.InOrder) (hrunning : k.threadRunning = true)
    (hphase : k.client.phase = .adopted ∨ k.client.phase = .publishing) (hkept : f.Kept params)
    (htime : timestamp.toNat % 2 ^ 24 ≠ 0xFFFFFF) (hheader : calls.SendsHeader)
    (hsilence : calls.silence = .whole) {last : UInt32} {sent : (LiveTarget × UInt32) × ℤ}
    (hsent : k.sendVideoFrame last f.toFrame timestamp params calls = some sent) :
    sent.1.1.client.InOrder := by
  have hpublishing : k.client.phase.isPublishing = true := by
    rcases hphase with hphase | hphase <;> rw [hphase] <;> rfl
  by_cases hgone : k.socketFd < 0 ∨ calls.allocated = false
  · -- Nothing is sent on a socket that is closed, or without memory for the message.
    unfold LiveTarget.sendVideoFrame at hsent
    split_ifs at hsent with hempty hidle hclosed hnone
    iterate 4
      obtain rfl := Option.some.inj hsent
      exact h
    exact absurd hgone (not_or.mpr ⟨hclosed, hnone⟩)
  · have hsocket : 0 ≤ k.socketFd := not_lt.mp fun hclosed => hgone (.inl hclosed)
    have hallocated : calls.allocated = true := by
      simpa using fun hnone => hgone (.inr hnone)
    have hready : k.Ready := ⟨h.inStep (by rintro hd; rw [hd] at hpublishing; cases hpublishing),
      hpublishing, h.adopted hphase, hrunning, hsocket⟩
    obtain ⟨k₁, hsends, -, hframe⟩ :=
      hready.sendVideoFrame_eq hallocated hheader hkept last timestamp
    have hinOrder : k₁.client.InOrder := hsends.ready.inOrder (by rwa [hsends.phase])
    rw [hframe] at hsent
    split_ifs at hsent
    · cases hmessage : calls.message with
      | whole =>
        obtain ⟨k₂, last', hwhole, hsends', -⟩ :=
          hsends.ready.sendFrameMessage (f := f) hmessage hsilence htime last
        rw [hwhole] at hsent
        obtain rfl := Option.some.inj hsent
        exact hsends'.ready.inOrder (by rwa [hsends'.phase, hsends.phase])
      | broken taken =>
        rw [k₁.sendFrameMessage_broken hmessage] at hsent
        obtain rfl := Option.some.inj hsent
        exact hinOrder.of_isEarly rfl rfl fun hd => absurd rfl hd
    · obtain rfl := Option.some.inj hsent
      exact hinOrder

/-- A connection is replaced, and is in order if it is the one in question. -/
theorem Distribution.inOrder_update (h : (s.targets i).client.InOrder)
    (hchanged : j = i → k.client.InOrder) :
    (Function.update s.targets j k i).client.InOrder := by
  by_cases hsame : i = j
  · rw [hsame, Function.update_self]
    exact hchanged hsame.symm
  · rw [Function.update_of_ne hsame]
    exact h

/-- Every event keeps the connection in order. -/
theorem Distribution.inOrder_step (hi : i ∈ order) (hnodup : order.Nodup)
    (h : (s.targets i).client.InOrder) {e : DistributionEvent ι} (hpermits : s.Permits i content e)
    (hstep : s.step order e = some s') : (s'.targets i).client.InOrder := by
  cases e with
  | setEnabled enabled =>
    obtain rfl := Option.some.inj hstep
    exact h
  | setRunning j running =>
    obtain rfl := Option.some.inj hstep
    exact Distribution.inOrder_update h fun hsame => by
      rw [hsame]
      exact h
  | own j socketFd now e =>
    obtain rfl := Option.some.inj hstep
    refine Distribution.inOrder_update h fun hsame => ?_
    rw [hsame]
    rcases (s.targets i).own_client socketFd now e with hclient | hclient
    · rw [hclient]
      exact h
    · rw [hclient]
      exact h.step (hpermits hsame)
  | frame frame timestampUs params calls =>
    rcases rtmpFrameCallback_cases hstep with rfl | ⟨henabled, hpass⟩
    · exact h
    · have htarget := foldlM_offer_target hi hnodup hpass
      split_ifs at htarget with hactive
      · obtain ⟨last, sent, hsent, hafter⟩ := htarget
        obtain ⟨hsendable, hphase, hheader, hsilence⟩ := hpermits henabled hactive
        rw [hafter]
        rw [← hsendable.units] at hsent
        exact LiveTarget.inOrder_sendVideoFrame h (Bool.and_eq_true_iff.mp hactive).2 hphase
          hsendable.kept hsendable.time hheader hsilence hsent
      · rw [htarget]
        exact h

/-! ### What a target receives -/

/-- What there is to say of a target that takes everything: whether the consumer is enabled, whether
the header has been sent or given up, and the video that it has been sent. -/
structure Pushing where
  enabled : Bool
  headerSent : Bool
  tags : List (UInt32 × VideoTag)

/-- A frame goes to the target behind the header, and is passed over while there are no parameter
sets and the wait lasts. -/
def Pushing.step (i : ι) (avcWaitStartUs : UInt32) (content : Frame → LongFrame) (w : Pushing) :
    DistributionEvent ι → Pushing
  | .setEnabled enabled => { w with enabled }
  | .frame frame timestampUs params calls =>
    if w.enabled then
      let goesOn := w.headerSent || params.isSome || 5000000 < (calls i).now - avcWaitStartUs
      { w with
        headerSent := goesOn
        tags := w.tags ++ (headerTags w.headerSent params ++
          if goesOn then [(rtmpTimestamp timestampUs, (content frame).tag)] else []) }
    else w
  | .own _ _ _ _ | .setRunning _ _ => w

/-- Nothing is done to the target's connection, and its network takes everything. -/
def Distribution.Undisturbed (i : ι) (content : Frame → LongFrame) (s : Distribution ι) :
    DistributionEvent ι → Prop
  | .own j _ _ _ | .setRunning j _ => j ≠ i
  | .frame frame timestampUs params calls =>
    s.enabled = true → Sendable content frame timestampUs params ∧ (calls i).Succeed
  | .setEnabled _ => True

/-- Since the first state the target has been sent the video. -/
structure Distribution.Follows (i : ι) (first : Distribution ι) (w : Pushing)
    (s : Distribution ι) : Prop where
  enabled : s.enabled = w.enabled
  headerSent : (s.targets i).avcHeaderSent = w.headerSent
  sends : (first.targets i).Sends (s.targets i) w.tags

variable {first : Distribution ι} {w : Pushing}

/-- A pass over the list, for a frame that is not empty and a connection that is active. -/
theorem rtmpFrameCallback_of_active (hi : i ∈ order) (hactive : (s.targets i).active = true)
    (henabled : s.enabled = true) (hne : frame.data ≠ []) (timestampUs : UInt64)
    (calls : ι → FrameCalls) :
    s.rtmpFrameCallback order frame timestampUs params calls =
      order.foldlM (Distribution.offer frame (rtmpTimestamp timestampUs) params calls) s := by
  have hcount : s.activeConnectionCount order ≠ 0 :=
    (List.countP_pos_iff.mpr ⟨i, hi, hactive⟩).ne'
  rw [Distribution.rtmpFrameCallback, if_neg (by simp [henabled]), if_neg hcount,
    Distribution.rtmpClientSendFrame, if_neg hne]

/-- The target gets the frame, whatever becomes of the others. -/
theorem Distribution.Follows.callback (h : first.Follows i w s) (hi : i ∈ order)
    (hnodup : order.Nodup) {timestampUs : UInt64} {calls : ι → FrameCalls}
    (hundisturbed : s.Undisturbed i content (.frame frame timestampUs params calls)) :
    ∃ s', s.rtmpFrameCallback order frame timestampUs params calls = some s' ∧
      first.Follows i (w.step i (first.targets i).avcWaitStartUs content
        (.frame frame timestampUs params calls)) s' := by
  have hready := h.sends.ready
  have hactive : (s.targets i).active = true := by
    rw [LiveTarget.active, hready.publishing, hready.running]
    rfl
  unfold Pushing.step
  dsimp only
  rw [← h.enabled]
  by_cases henabled : s.enabled = true
  · obtain ⟨⟨hunits, hkept, htime⟩, hsucceed⟩ := hundisturbed henabled
    have hne : frame.data ≠ [] := by
      rw [← hunits]
      exact List.ne_nil_of_length_pos (by have := (content frame).length_data; omega)
    obtain ⟨s', hpass⟩ := foldlM_offer_isSome s order hkept (rtmpTimestamp timestampUs) calls
    rw [hunits] at hpass
    have htarget := foldlM_offer_target hi hnodup hpass
    rw [if_pos hactive] at htarget
    obtain ⟨last, sent, hsent, hafter⟩ := htarget
    obtain ⟨k', last', hvideo, hsends, hmark⟩ :=
      hready.sendVideoFrame hsucceed hkept htime last
    rw [hunits, hsent] at hvideo
    obtain rfl := Option.some.inj hvideo
    have hgoes : (s.targets i).goesOn params (calls i) =
        (w.headerSent || params.isSome ||
          decide (5000000 < (calls i).now - (first.targets i).avcWaitStartUs)) := by
      rw [LiveTarget.goesOn, LiveTarget.waitIsOver, h.headerSent, h.sends.wait]
    rw [rtmpFrameCallback_of_active hi hactive henabled hne, if_pos henabled, ← hgoes]
    refine ⟨s', hpass, foldlM_offer_enabled hpass, ?_, ?_⟩
    · rw [hafter]
      exact hmark
    · have htags := h.sends.trans hsends
      rw [LiveTarget.tagsFor, h.headerSent] at htags
      rw [hafter]
      exact htags
  · rw [Distribution.rtmpFrameCallback, if_pos (by simpa using henabled), if_neg henabled]
    exact ⟨s, rfl, h⟩

/-- No event keeps the target from what it is to be sent. -/
theorem Distribution.Follows.step (h : first.Follows i w s) (hi : i ∈ order)
    (hnodup : order.Nodup) {e : DistributionEvent ι} (hundisturbed : s.Undisturbed i content e) :
    ∃ s', s.step order e = some s' ∧
      first.Follows i (w.step i (first.targets i).avcWaitStartUs content e) s' := by
  have hother : ∀ (j : ι) (k : LiveTarget), j ≠ i →
      first.Follows i w { s with targets := Function.update s.targets j k } := by
    intro j k hne
    have hsame : Function.update s.targets j k i = s.targets i :=
      Function.update_of_ne hne.symm _ _
    refine ⟨h.enabled, (congrArg (·.avcHeaderSent) hsame).trans h.headerSent, ?_⟩
    dsimp only
    rw [hsame]
    exact h.sends
  cases e with
  | setEnabled enabled => exact ⟨_, rfl, rfl, h.headerSent, h.sends⟩
  | own j socketFd now e => exact ⟨_, rfl, hother j _ hundisturbed⟩
  | setRunning j running => exact ⟨_, rfl, hother j _ hundisturbed⟩
  | frame frame timestampUs params calls => exact h.callback hi hnodup hundisturbed

/-- A frame with parameter sets and an IDR picture. -/
def keyPicture : LongFrame where
  units := baselineFrame .long
  ne_nil := List.cons_ne_nil _ _
  ends := by decide
  long := by decide
  length_lt := by decide

/-- What the frame manager has kept of it. -/
def keptSets : ParameterSet × ParameterSet :=
  (unitSet baselineSps baselineSps_fits, unitSet baselinePps baselinePps_fits)

/-- The second of two targets makes its connection. -/
def startup : List (DistributionEvent Bool) :=
  [.setRunning true true, .own true 3 0 .establish, .own true 3 0 .connect,
    .own true 3 0 (.createStream 1), .own true 3 0 .publish, .own true 3 0 .announce,
    .own true 3 0 .adoptChunkSize, .own true 3 0 .audioConfig]

/-- Everything is taken. -/
def takingCalls : FrameCalls := ⟨true, true, 0, .whole, .whole, .whole⟩

theorem startup_permitted : Allowed (Distribution.step [false, true])
    (Distribution.Permits true fun _ => keyPicture) (.start defaultConfig fun _ => shortTarget)
    startup := by
  have hconnect : ∀ payload, connectCommand shortTarget = some payload → payload.length ≤ 128 := by
    decide +kernel
  have hpublish : ∀ payload, publishCommand shortTarget = some payload → payload.length ≤ 128 := by
    decide +kernel
  refine ⟨trivial, fun s₁ h₁ => ?_⟩
  obtain rfl := Option.some.inj h₁
  refine ⟨fun _ => trivial, fun s₂ h₂ => ?_⟩
  obtain rfl := Option.some.inj h₂
  refine ⟨fun _ _ => hconnect, fun s₃ h₃ => ?_⟩
  obtain rfl := Option.some.inj h₃
  refine ⟨fun _ => trivial, fun s₄ h₄ => ?_⟩
  obtain rfl := Option.some.inj h₄
  refine ⟨fun _ _ => hpublish, fun s₅ h₅ => ?_⟩
  obtain rfl := Option.some.inj h₅
  exact ⟨fun _ => trivial, fun _ _ => ⟨fun _ => trivial, fun _ _ => ⟨fun _ => trivial,
    fun _ _ => trivial⟩⟩⟩

end RtmpClient
