import Strero.Rtsp.RtpSender

/-!
# Sending a frame to a client

`send_frame_to_client` looks for the start codes of a frame, notes where each NAL
unit begins and how long it is, and sends the units with one timestamp. The value
`none` stands for an access outside of the frame or of the arrays for the units.
-/

namespace Rtsp

/-! ### Timestamps -/

/-- There are channels. -/
instance channels_neZero : NeZero 4 := ⟨by decide⟩

/-- The static variables of `calculate_monotonic_rtp_timestamp`. -/
structure RtpClock where
  lastFrameTime : Fin 4 → UInt64
  baseTimestamp : Fin 4 → UInt32
  initialized : Fin 4 → Bool

/-- Before the first frame. -/
def RtpClock.initial : RtpClock := ⟨fun _ => 0, fun _ => 0, fun _ => false⟩

/-- `calculate_monotonic_rtp_timestamp`, with the time it reads and the random
number that it may draw. -/
def calculateMonotonicRtpTimestamp (clock : RtpClock) (channel : Fin 4) (currentTime : UInt64)
    (random : UInt32) : RtpClock × UInt32 :=
  if clock.initialized channel then
    let elapsedUs := currentTime - clock.lastFrameTime channel
    let increment := (elapsedUs * 90000 / 1000000).toUInt32
    let timestamp := clock.baseTimestamp channel + increment
    ({ clock with
        lastFrameTime := Function.update clock.lastFrameTime channel currentTime
        baseTimestamp := Function.update clock.baseTimestamp channel timestamp }, timestamp)
  else
    ({ lastFrameTime := Function.update clock.lastFrameTime channel currentTime
       baseTimestamp := Function.update clock.baseTimestamp channel (random % 100000)
       initialized := Function.update clock.initialized channel true }, random % 100000)

/-! ### NAL units of a frame -/

/-- An entry of `nal_offsets` and `nal_sizes`. -/
structure NalRange where
  offset : ℕ
  size : ℕ
deriving DecidableEq, Repr

/-- The size of the last entry is set once its end is known. -/
def setLastSize (nals : List NalRange) (stop : ℕ) : List NalRange :=
  match nals.getLast? with
  | none => []
  | some nal => nals.dropLast ++ [{ nal with size := stop - nal.offset }]

/-- An entry for the unit after a start code of `length` bytes at `offset`. The
arrays have room for 32. -/
def recordNal (nals : List NalRange) (offset length : ℕ) : Option (List NalRange) :=
  if nals.length < 32 then some (setLastSize nals offset ++ [⟨offset + length, 0⟩]) else none

/-- The loop over the offsets of a frame of at least three bytes. -/
def findNals (frame : List UInt8) (offset : ℕ) (nals : List NalRange) : Option (List NalRange) :=
  if offset < frame.length - 3 then
    if offset < frame.length - 4 ∧ [0, 0, 0, 1] <+: frame.drop offset then
      (recordNal nals offset 4).bind (findNals frame (offset + 4))
    else if [0, 0, 1] <+: frame.drop offset then
      (recordNal nals offset 3).bind (findNals frame (offset + 3))
    else findNals frame (offset + 1) nals
  else some (setLastSize nals frame.length)
termination_by frame.length - offset

/-- The bytes of an entry. -/
def NalRange.bytes (nal : NalRange) (frame : List UInt8) : List UInt8 :=
  (frame.drop nal.offset).take nal.size

/-- The loop that sends the units. The marker goes with the last entry. -/
def sendNals (net : Network) (frame : List UInt8) (timestamp : UInt32) (s : Sender) :
    List NalRange → Sender
  | [] => s
  | nal :: nals =>
    let s := if nal.offset < frame.length ∧ 0 < nal.size then
        (sendRtpPacket net s (nal.bytes frame) timestamp nals.isEmpty).1
      else s
    sendNals net frame timestamp s nals

/-- `send_frame_to_client`, with the number of units it returns. -/
def sendFrameToClient (net : Network) (clock : RtpClock) (s : Sender) (frame : List UInt8)
    (channel : Fin 4) (currentTime : UInt64) (random : UInt32) : Option (RtpClock × Sender × ℕ) :=
  if frame.length = 0 then some (clock, s, 0)
  else if s.client.state ≠ .playing then some (clock, s, 0)
  else if frame.length < 3 then none
  else
    (findNals frame 0 []).map fun nals =>
      let r := calculateMonotonicRtpTimestamp clock channel currentTime random
      (r.1, sendNals net frame r.2 s nals, nals.length)

end Rtsp
