import Strero.Rtsp.SenderRule

/-!
# Frames for the clients that play

`rtsp_server_send_frame` finds out whether a frame holds a key frame or parameter sets,
and offers it to each client that plays its channel. A client that waits for a key frame
is given other frames only after five seconds, by a difference of two clock values in an
unsigned long.
-/

namespace Rtsp

/-! ### What a frame holds -/

/-- The loop over the offsets of a frame. It stops after 100 start codes. -/
def scanNals (frame : List UInt8) (offset : ℕ) (nals : List NalRange) : List NalRange :=
  if offset < frame.length ∧ nals.length < 100 then
    if [0, 0, 0, 1] <+: frame.drop offset then
      scanNals frame (offset + 4) (setLastSize nals offset ++ [⟨offset + 4, 0⟩])
    else if [0, 0, 1] <+: frame.drop offset then
      scanNals frame (offset + 3) (setLastSize nals offset ++ [⟨offset + 3, 0⟩])
    else scanNals frame (offset + 1) nals
  else setLastSize nals frame.length
termination_by frame.length - offset

/-- The type in the header of a unit, if the unit has a header. -/
def nalType (codec : Codec) : List UInt8 → Option UInt8
  | b :: rest =>
    match codec with
    | .h264 => some (b &&& 0x1F)
    | .h265 => if rest = [] then none else some ((b >>> 1) &&& 0x3F)
  | [] => none

/-- The types of the units of a frame. -/
def frameTypes (codec : Codec) (frame : List UInt8) : List UInt8 :=
  (scanNals frame 0 []).filterMap fun nal =>
    if nal.offset < frame.length ∧ 0 < nal.size then nalType codec (nal.bytes frame) else none

/-- `is_idr_frame`. -/
def isIdrFrame (codec : Codec) (frame : List UInt8) : Bool :=
  (frameTypes codec frame).any fun t =>
    match codec with
    | .h264 => t = 5
    | .h265 => 19 ≤ t && t ≤ 21

/-- `has_parameter_sets`. -/
def hasParameterSets (codec : Codec) (frame : List UInt8) : Bool :=
  (frameTypes codec frame).any fun t =>
    match codec with
    | .h264 => t = 7 || t = 8
    | .h265 => 32 ≤ t && t ≤ 34

/-! ### The loop over the clients -/

/-- A frame of a channel, the codec that the encoder reports for it, and what the clock shows
before the loop and while the frame is sent. -/
structure LiveFrame where
  data : List UInt8
  channel : Fin 4
  codec : Codec
  now : UInt32
  sendTime : UInt64
  random : UInt32
deriving DecidableEq

/-- What is done with a frame for a client: it is dropped, sent, sent to end the wait, or
sent after the wait has ended by time. -/
inductive Offer
  | dropped | sent | sentAsKey | sentByTimeout
deriving DecidableEq, Repr

/-- The branches of the loop for a client that plays, by its wait. -/
def LiveFrame.offer (frame : LiveFrame) (needsIdr : Bool) (idrWaitStartUs : UInt32) : Offer :=
  if needsIdr then
    let waitTimeUs := frame.now - idrWaitStartUs
    if 5000000 < waitTimeUs then .sentByTimeout
    else if isIdrFrame frame.codec frame.data then .sentAsKey
    else if hasParameterSets frame.codec frame.data then .sent
    else .dropped
  else .sent

/-- The client gets frames of this channel. -/
def Client.plays (client : Client) (channel : Fin 4) : Prop :=
  client.active = true ∧ client.state = .playing ∧ client.videoChannel = channel.val

instance (client : Client) (channel : Fin 4) : Decidable (client.plays channel) :=
  inferInstanceAs (Decidable (_ ∧ _))

/-- The client waits no longer. -/
def Sender.clearNeedsIdr (s : Sender) : Sender :=
  { s with client := { s.client with needsIdr := false } }

/-- The body of the loop for a client, without anything in between from another thread. -/
def Sender.offerFrame (net : Network) (clock : RtpClock) (s : Sender) (frame : LiveFrame) :
    Option (RtpClock × Sender) :=
  let send (s : Sender) : Option (RtpClock × Sender) :=
    (sendFrameToClient net clock s frame.data frame.channel frame.sendTime frame.random).map
      fun r => (r.1, r.2.1)
  if s.client.plays frame.channel then
    match frame.offer s.client.needsIdr s.client.idrWaitStartUs with
    | .dropped => some (clock, s)
    | .sent => send s
    | .sentAsKey => (send s).map fun r => (r.1, r.2.clearNeedsIdr)
    | .sentByTimeout => send s.clearNeedsIdr
  else some (clock, s)

/-- Offering a frame changes only the number of the next packet and the mark of the wait. -/
theorem offerFrame_client {net : Network} {clock clock' : RtpClock} {s s' : Sender}
    {frame : LiveFrame}
    (h : s.offerFrame net clock frame = some (clock', s')) :
    ∃ rtpSeq needsIdr, s'.client = { s.client with rtpSeq := rtpSeq, needsIdr := needsIdr } := by
  unfold Sender.offerFrame at h
  split at h
  · split at h
    · obtain ⟨-, rfl⟩ := Prod.mk.inj (Option.some.inj h)
      exact ⟨_, _, rfl⟩
    · obtain ⟨r, hr, hs'⟩ := Option.map_eq_some_iff.mp h
      obtain ⟨rtpSeq, hclient⟩ := sendFrameToClient_client hr
      obtain ⟨-, rfl⟩ := Prod.mk.inj hs'
      exact ⟨rtpSeq, s.client.needsIdr, hclient⟩
    · obtain ⟨r, hr, hs'⟩ := Option.map_eq_some_iff.mp h
      obtain ⟨r₀, hr₀, rfl⟩ := Option.map_eq_some_iff.mp hr
      obtain ⟨rtpSeq, hclient⟩ := sendFrameToClient_client hr₀
      obtain ⟨-, rfl⟩ := Prod.mk.inj hs'
      refine ⟨rtpSeq, false, ?_⟩
      rw [Sender.clearNeedsIdr]
      dsimp only
      rw [hclient]
    · obtain ⟨r, hr, hs'⟩ := Option.map_eq_some_iff.mp h
      obtain ⟨rtpSeq, hclient⟩ := sendFrameToClient_client hr
      obtain ⟨-, rfl⟩ := Prod.mk.inj hs'
      exact ⟨rtpSeq, false, hclient⟩
  · obtain ⟨-, rfl⟩ := Prod.mk.inj (Option.some.inj h)
    exact ⟨_, _, rfl⟩

end Rtsp
